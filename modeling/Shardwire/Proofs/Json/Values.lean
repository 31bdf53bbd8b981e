import Mathlib.Algebra.Group.Int.Defs
import Mathlib.Order.Defs.LinearOrder
import Shardwire.Json.Decode

/-
JSON values that are passed through untouched.

Such a value holds integers of 64 bits, and its objects list their keys in ascending order, each key once (`IsProper`);
it may hold floating numbers (`IsWhole` says that it does not). `Every` says something of a value and of all values in
it, `depth` how deep arrays and objects nest.
- `sortMembers_of_sorted`, `sorted_sortMembers`: sorting sorts, and changes nothing in an object that is sorted;
- `value_ofJson`: a proper value that is not too deep for where it stands is read back from its own outline;
- `value_fitting`: whatever is read is proper and not too deep, if the integers of the outline are of 64 bits.
-/

namespace Shardwire.Json

/-! ## Every value in a value -/

mutual

/-- whether something holds of a value and of every value in it -/
def Every (p : Json → Prop) : Json → Prop
  | .null => p .null
  | .bool b => p (.bool b)
  | .int n => p (.int n)
  | .float x => p (.float x)
  | .str s => p (.str s)
  | .arr items => p (.arr items) ∧ EveryItem p items
  | .obj members => p (.obj members) ∧ EveryMember p members

def EveryItem (p : Json → Prop) : List Json → Prop
  | [] => True
  | v :: rest => Every p v ∧ EveryItem p rest

def EveryMember (p : Json → Prop) : List (String × Json) → Prop
  | [] => True
  | (_, v) :: rest => Every p v ∧ EveryMember p rest

end

mutual

/-- how many arrays and objects are nested, at most -/
def depth : Json → Nat
  | .arr items => depthItems items + 1
  | .obj members => depthMembers members + 1
  | _ => 0

def depthItems : List Json → Nat
  | [] => 0
  | v :: rest => max (depth v) (depthItems rest)

def depthMembers : List (String × Json) → Nat
  | [] => 0
  | (_, v) :: rest => max (depth v) (depthMembers rest)

end

/-- whether an integer is a signed or an unsigned word of 64 bits -/
def FitsWord (n : Int) : Prop := -2 ^ 63 ≤ n ∧ n < 2 ^ 64

/-- an integer of 64 bits, an object in ascending order of its keys, or anything else -/
def IsProper : Json → Prop
  | .int n => FitsWord n
  | .obj members => members.Pairwise fun a b => a.1 < b.1
  | _ => True

/-- anything but a floating number -/
def IsWhole : Json → Prop
  | .float _ => False
  | _ => True

/-- an integer of 64 bits, or anything else but a number -/
def IsWord : Json → Prop
  | .int n => FitsWord n
  | .float _ => False
  | _ => True

section Every

variable {p q r : Json → Prop}

mutual

theorem Every.imp₂ (h : ∀ v, p v → q v → r v) : ∀ {v : Json}, Every p v → Every q v → Every r v
  | .null, hp, hq => h _ hp hq
  | .bool _, hp, hq => h _ hp hq
  | .int _, hp, hq => h _ hp hq
  | .float _, hp, hq => h _ hp hq
  | .str _, hp, hq => h _ hp hq
  | .arr _, hp, hq => ⟨h _ hp.1 hq.1, EveryItem.imp₂ h hp.2 hq.2⟩
  | .obj _, hp, hq => ⟨h _ hp.1 hq.1, EveryMember.imp₂ h hp.2 hq.2⟩

theorem EveryItem.imp₂ (h : ∀ v, p v → q v → r v) :
    ∀ {items : List Json}, EveryItem p items → EveryItem q items → EveryItem r items
  | [], _, _ => trivial
  | _ :: _, hp, hq => ⟨Every.imp₂ h hp.1 hq.1, EveryItem.imp₂ h hp.2 hq.2⟩

theorem EveryMember.imp₂ (h : ∀ v, p v → q v → r v) :
    ∀ {members : List (String × Json)}, EveryMember p members → EveryMember q members → EveryMember r members
  | [], _, _ => trivial
  | (_, _) :: _, hp, hq => ⟨Every.imp₂ h hp.1 hq.1, EveryMember.imp₂ h hp.2 hq.2⟩

end

theorem everyMember_iff {members : List (String × Json)} : EveryMember p members ↔ ∀ m ∈ members, Every p m.2 := by
  induction members with
  | nil => simp [EveryMember]
  | cons m rest ih => rw [EveryMember, ih, List.forall_mem_cons]

end Every

theorem IsProper.word {v : Json} (proper : IsProper v) (whole : IsWhole v) : IsWord v := by
  cases v with
  | int n => exact proper
  | float x => exact whole
  | _ => trivial

theorem Every.word {v : Json} (proper : v.Every IsProper) (whole : v.Every IsWhole) : v.Every IsWord :=
  proper.imp₂ (fun _ => IsProper.word) whole

theorem EveryItem.word {items : List Json} (proper : EveryItem IsProper items) (whole : EveryItem IsWhole items) :
    EveryItem IsWord items :=
  proper.imp₂ (fun _ => IsProper.word) whole

theorem depthMembers_le {members : List (String × Json)} {k : Nat} :
    depthMembers members ≤ k ↔ ∀ m ∈ members, depth m.2 ≤ k := by
  induction members with
  | nil => simp [depthMembers]
  | cons m rest ih => rw [depthMembers, Nat.max_le, ih, List.forall_mem_cons]

/-! ## Sorted members -/

section Sorting

variable {key : String} {value : Json} {members : List (String × Json)}

theorem insertMember_last (h : ∀ m ∈ members, m.1 < key) : insertMember key value members = members ++ [(key, value)] := by
  induction members with
  | nil => rfl
  | cons m rest ih =>
    have before : m.1 < key := h m List.mem_cons_self
    have other : key ≠ m.1 := fun same => String.lt_irrefl key (same ▸ before)
    have after : ¬ key < m.1 := fun above => String.lt_irrefl key (String.lt_trans above before)
    rw [insertMember, if_neg other, if_neg after, ih fun k hk => h k (List.mem_cons_of_mem m hk)]
    rfl

/-- Nothing is left to sort. -/
theorem sortMembers_of_sorted (sorted : members.Pairwise fun a b => a.1 < b.1) : sortMembers members = members := by
  suffices more : ∀ acc : List (String × Json), (acc ++ members).Pairwise (fun a b => a.1 < b.1) →
      members.foldl (fun acc m => insertMember m.1 m.2 acc) acc = acc ++ members from more [] sorted
  intro acc all
  induction members generalizing acc with
  | nil => exact (List.append_nil acc).symm
  | cons m rest ih =>
    have last : ∀ k ∈ acc, k.1 < m.1 := fun k hk => (List.pairwise_append.1 all).2.2 k hk m List.mem_cons_self
    rw [List.foldl_cons, insertMember_last last]
    rw [List.append_cons] at all
    rw [ih (List.pairwise_cons.1 sorted).2 _ all, List.append_assoc]
    rfl

theorem mem_insertMember {m : String × Json} (h : m ∈ insertMember key value members) :
    m = (key, value) ∨ m ∈ members := by
  induction members with
  | nil => exact .inl (List.mem_singleton.1 h)
  | cons k rest ih =>
    by_cases same : key = k.1
    · rw [insertMember, if_pos same] at h
      rcases List.mem_cons.1 h with rfl | h
      · exact .inl rfl
      · exact .inr (List.mem_cons_of_mem k h)
    · rw [insertMember, if_neg same] at h
      by_cases before : key < k.1
      · rw [if_pos before] at h
        exact List.mem_cons.1 h
      · rw [if_neg before] at h
        rcases List.mem_cons.1 h with rfl | h
        · exact .inr List.mem_cons_self
        · exact (ih h).imp_right (List.mem_cons_of_mem k)

theorem sorted_insertMember (sorted : members.Pairwise fun a b => a.1 < b.1) :
    (insertMember key value members).Pairwise fun a b => a.1 < b.1 := by
  induction members with
  | nil => exact List.pairwise_singleton _ _
  | cons k rest ih =>
    obtain ⟨below, sorted'⟩ := List.pairwise_cons.1 sorted
    by_cases same : key = k.1
    · rw [insertMember, if_pos same]
      refine List.pairwise_cons.2 ⟨fun m hm => ?_, sorted'⟩
      rw [same]
      exact below m hm
    · rw [insertMember, if_neg same]
      by_cases before : key < k.1
      · rw [if_pos before]
        refine List.pairwise_cons.2 ⟨fun m hm => ?_, sorted⟩
        rcases List.mem_cons.1 hm with rfl | hm
        · exact before
        · exact String.lt_trans before (below m hm)
      · rw [if_neg before]
        refine List.pairwise_cons.2 ⟨fun m hm => ?_, ih sorted'⟩
        rcases mem_insertMember hm with rfl | hm
        · -- the order is total
          by_contra above
          exact same (String.le_antisymm (String.not_lt.1 above) (String.not_lt.1 before))
        · exact below m hm

theorem sorted_sortMembers (members : List (String × Json)) : (sortMembers members).Pairwise fun a b => a.1 < b.1 := by
  suffices more : ∀ acc : List (String × Json), acc.Pairwise (fun a b => a.1 < b.1) →
      (members.foldl (fun acc m => insertMember m.1 m.2 acc) acc).Pairwise fun a b => a.1 < b.1 from more [] .nil
  induction members with
  | nil => exact fun acc sorted => sorted
  | cons m rest ih => exact fun acc sorted => ih _ (sorted_insertMember sorted)

theorem mem_sortMembers {m : String × Json} (h : m ∈ sortMembers members) : m ∈ members := by
  suffices more : ∀ acc : List (String × Json), m ∈ members.foldl (fun acc m => insertMember m.1 m.2 acc) acc →
      m ∈ members ∨ m ∈ acc by
    rcases more [] h with h | h
    · exact h
    · cases h
  clear h
  induction members with
  | nil => exact fun acc h => .inr h
  | cons k rest ih =>
    intro acc h
    rcases ih _ h with h | h
    · exact .inl (List.mem_cons_of_mem k h)
    · rcases mem_insertMember h with rfl | h
      · exact .inl List.mem_cons_self
      · exact .inr h

end Sorting

/-! ## Values in memory -/

/-- whether there is room for some levels of nesting -/
def Source.Admits : Source → Nat → Prop
  | .text levels, n => n ≤ levels
  | .memory, _ => True

theorem Source.Admits.mono {src : Source} {m n : Nat} (h : src.Admits n) (le : m ≤ n) : src.Admits m := by
  cases src with
  | text levels => exact Nat.le_trans le h
  | memory => trivial

theorem Source.Admits.enter {src : Source} {n : Nat} (h : src.Admits (n + 1)) :
    ∃ src', src.enter = .ok src' ∧ src'.Admits n := by
  cases src with
  | text levels =>
    cases levels with
    | zero => exact absurd h (Nat.not_succ_le_zero n)
    | succ levels => exact ⟨.text levels, rfl, Nat.le_of_succ_le_succ h⟩
  | memory => exact ⟨.memory, rfl, trivial⟩

mutual

/-- A value that is sorted and not too deep is what its outline says. -/
theorem value_ofJson : ∀ {v : Json} {src : Source}, v.Every IsProper → src.Admits v.depth →
    Decoder.value src (.ofJson v) = .ok v
  | .null, _, _, _ => rfl
  | .bool _, _, _, _ => rfl
  | .int _, _, _, _ => rfl
  | .float _, _, _, _ => rfl
  | .str _, _, _, _ => rfl
  | .arr items, _, proper, room => by
    obtain ⟨src', enter, room⟩ := room.enter
    have inner := values_ofItems proper.2 room
    simp only [Outline.ofJson, Decoder.value, enter, inner, closed, bind, Except.bind, pure, Except.pure]
  | .obj members, _, proper, room => by
    obtain ⟨src', enter, room⟩ := room.enter
    have inner := members_ofMembers proper.2 room
    simp only [Outline.ofJson, Decoder.value, enter, inner, closed, bind, Except.bind, pure, Except.pure, object,
      sortMembers_of_sorted proper.1]

theorem values_ofItems : ∀ {items : List Json} {src : Source}, EveryItem IsProper items →
    src.Admits (depthItems items) → Decoder.values src (Outline.ofItems items) = .ok items
  | [], _, _, _ => rfl
  | v :: rest, src, proper, room => by
    have here : src.Admits v.depth := room.mono (Nat.le_max_left _ _)
    have there : src.Admits (depthItems rest) := room.mono (Nat.le_max_right _ _)
    simp only [Outline.ofItems, Decoder.values, value_ofJson proper.1 here, values_ofItems proper.2 there, bind,
      Except.bind, pure, Except.pure]

theorem members_ofMembers : ∀ {members : List (String × Json)} {src : Source}, EveryMember IsProper members →
    src.Admits (depthMembers members) → Decoder.members src (Outline.ofMembers members) = .ok members
  | [], _, _, _ => rfl
  | (name, v) :: rest, src, proper, room => by
    have here : src.Admits v.depth := room.mono (Nat.le_max_left _ _)
    have there : src.Admits (depthMembers rest) := room.mono (Nat.le_max_right _ _)
    simp only [Outline.ofMembers, Decoder.members, value_ofJson proper.1 here, members_ofMembers proper.2 there, bind,
      Except.bind, pure, Except.pure]

end

theorem uint64_word (n : UInt64) (src : Source) : Decoder.uint64 src (.ofJson (.word n)) = .ok n := by
  have h : (n.toNat : Int) ≤ (UInt64.size - 1 : Nat) := by
    have := n.toNat_lt
    simp only [UInt64.size]
    omega
  simp only [Decoder.uint64, Decoder.unsigned, word, Outline.ofJson, Int.natCast_nonneg, h, and_self, if_true,
    Except.map, Int.toNat_natCast, UInt64.ofNat_toNat]

/-! ## Values that are read -/

theorem ok_of_bind {ε α β : Type} {x : Except ε α} {f : α → Except ε β} {b : β} (h : (x >>= f) = .ok b) :
    ∃ a, x = .ok a ∧ f a = .ok b := by
  cases x with
  | error e => cases h
  | ok a => exact ⟨a, rfl, h⟩

mutual

/-- whether the integers of an outline are of 64 bits -/
def Outline.Fits : Outline → Prop
  | .number (.int n) => FitsWord n
  | .arr items _ => Outline.FitItems items
  | .obj members _ => Outline.FitMembers members
  | _ => True

def Outline.FitItems : List Outline → Prop
  | [] => True
  | o :: rest => Outline.Fits o ∧ Outline.FitItems rest

def Outline.FitMembers : List (Outline × Outline) → Prop
  | [] => True
  | (_, o) :: rest => Outline.Fits o ∧ Outline.FitMembers rest

end

/-- what can be read at a level of nesting -/
structure Fitting (k : Nat) (v : Json) : Prop where
  proper : v.Every IsProper
  shallow : v.depth ≤ k

theorem Fitting.null (k : Nat) : Fitting k .null := ⟨trivial, Nat.zero_le k⟩

mutual

/-- A value that is read is proper, and nests no deeper than it may. -/
theorem value_fitting : ∀ {o : Outline} {k : Nat} {v : Json}, o.Fits → Decoder.value (.text k) o = .ok v → Fitting k v
  | .null, k, _, _, h => by
    cases h
    exact .null k
  | .bool _, k, _, _, h => by
    cases h
    exact ⟨trivial, Nat.zero_le k⟩
  | .number (.int _), k, _, fits, h => by
    cases h
    exact ⟨fits, Nat.zero_le k⟩
  | .number (.float _), k, _, _, h => by
    cases h
    exact ⟨trivial, Nat.zero_le k⟩
  | .number .huge, _, _, _, h => by cases h
  | .text _, k, _, _, h => by
    cases h
    exact ⟨trivial, Nat.zero_le k⟩
  | .ragged _, _, _, _, h => by cases h
  | .gap _, _, _, _, h => by cases h
  | .arr _ _, 0, _, _, h => by cases h
  | .obj _ _, 0, _, _, h => by cases h
  | .arr items stop, k + 1, v, fits, h => by
    obtain ⟨vs, read, h⟩ := ok_of_bind (x := Decoder.values (.text k) items) h
    obtain ⟨-, -, h⟩ := ok_of_bind h
    cases h
    have inner := values_fitting fits read
    exact ⟨⟨trivial, inner.1⟩, Nat.succ_le_succ inner.2⟩
  | .obj members stop, k + 1, v, fits, h => by
    obtain ⟨ms, read, h⟩ := ok_of_bind (x := Decoder.members (.text k) members) h
    obtain ⟨-, -, h⟩ := ok_of_bind h
    cases h
    have inner := members_fitting fits read
    refine ⟨⟨sorted_sortMembers ms, ?_⟩, Nat.succ_le_succ ?_⟩
    · rw [everyMember_iff]
      intro m hm
      exact (inner m (mem_sortMembers hm)).proper
    · rw [depthMembers_le]
      intro m hm
      exact (inner m (mem_sortMembers hm)).shallow

theorem values_fitting : ∀ {os : List Outline} {k : Nat} {vs : List Json}, Outline.FitItems os →
    Decoder.values (.text k) os = .ok vs → EveryItem IsProper vs ∧ depthItems vs ≤ k
  | [], k, _, _, h => by
    cases h
    exact ⟨trivial, Nat.zero_le k⟩
  | o :: rest, k, _, fits, h => by
    obtain ⟨v, read, h⟩ := ok_of_bind (x := Decoder.value (.text k) o) h
    obtain ⟨vs, others, h⟩ := ok_of_bind (x := Decoder.values (.text k) rest) h
    cases h
    have here := value_fitting fits.1 read
    have there := values_fitting fits.2 others
    exact ⟨⟨here.proper, there.1⟩, Nat.max_le.2 ⟨here.shallow, there.2⟩⟩

theorem members_fitting : ∀ {os : List (Outline × Outline)} {k : Nat} {ms : List (String × Json)},
    Outline.FitMembers os → Decoder.members (.text k) os = .ok ms → ∀ m ∈ ms, Fitting k m.2
  | [], _, _, _, h => by
    cases h
    exact fun m hm => nomatch hm
  | (.text name, o) :: rest, k, _, fits, h => by
    obtain ⟨v, read, h⟩ := ok_of_bind (x := Decoder.value (.text k) o) h
    obtain ⟨ms, others, h⟩ := ok_of_bind (x := Decoder.members (.text k) rest) h
    cases h
    intro m hm
    rcases List.mem_cons.1 hm with rfl | hm
    · exact value_fitting fits.1 read
    · exact members_fitting fits.2 others m hm
  | (.null, _) :: _, _, _, _, h => by cases h
  | (.bool _, _) :: _, _, _, _, h => by cases h
  | (.number _, _) :: _, _, _, _, h => by cases h
  | (.ragged _, _) :: _, _, _, _, h => by cases h
  | (.arr _ _, _) :: _, _, _, _, h => by cases h
  | (.obj _ _, _) :: _, _, _, _, h => by cases h
  | (.gap _, _) :: _, _, _, _, h => by cases h

end

end Shardwire.Json
