import Shardwire.Proofs.Json.Values

/-
Records that are read from the objects they are written as.

A record is written field by field, and the object is sorted before it is put into a message. Sorting moves the members,
but every key keeps its value (`member?_canonical`). So a record can be read as soon as its keys are distinct and each
member passes the field of its name (`record_canonical`): then every field finds what was written for it, and none is
found for what was left out.

`Recovers` is what is shown of one member: it stands for a value, and that value is read from it.
-/

namespace Shardwire.Json

/-! ## Members by their keys -/

/-- the value under a key -/
def member? (name : String) (members : List (String × Json)) : Option Json :=
  (members.find? fun m => m.1 == name).map (·.2)

section Members

variable {name key : String} {v : Json} {members rest : List (String × Json)}

@[simp] theorem member?_nil (name : String) : member? name [] = none := rfl

@[simp] theorem member?_cons :
    member? name ((key, v) :: rest) = if key = name then some v else member? name rest := by
  by_cases here : key = name <;> simp [member?, here]

@[simp] theorem member?_append :
    member? name (members ++ rest) = (member? name members).or (member? name rest) := by
  simp only [member?, List.find?_append, Option.map_or]

theorem member?_eq_none (absent : name ∉ members.map (·.1)) : member? name members = none := by
  have nowhere : members.find? (fun m => m.1 == name) = none := by
    rw [List.find?_eq_none]
    intro m hm here
    exact absent (List.mem_map.2 ⟨m, hm, eq_of_beq here⟩)
  rw [member?, nowhere]
  rfl

theorem member?_insertMember (key : String) (v : Json) (members : List (String × Json)) :
    member? name (insertMember key v members) = if key = name then some v else member? name members := by
  induction members with
  | nil => exact member?_cons
  | cons m rest ih =>
    obtain ⟨k, w⟩ := m
    by_cases same : key = k
    · rw [insertMember, if_pos same, member?_cons, member?_cons, ← same]
      split <;> rfl
    · rw [insertMember, if_neg same]
      by_cases before : key < k
      · rw [if_pos before, member?_cons]
      · rw [if_neg before, member?_cons, ih, member?_cons]
        -- no key is both
        by_cases here : k = name
        · rw [if_pos here, if_pos here, if_neg (here ▸ same)]
        · rw [if_neg here, if_neg here]

theorem member?_sortMembers (distinct : (members.map (·.1)).Nodup) :
    member? name (sortMembers members) = member? name members := by
  suffices more : ∀ acc : List (String × Json),
      member? name (members.foldl (fun acc m => insertMember m.1 m.2 acc) acc) =
        (member? name members).or (member? name acc) by
    rw [sortMembers, more, member?_nil, Option.or_none]
  induction members with
  | nil => exact fun acc => rfl
  | cons m rest ih =>
    obtain ⟨k, w⟩ := m
    obtain ⟨once, distinct⟩ := List.nodup_cons.1 distinct
    intro acc
    rw [List.foldl_cons, ih distinct, member?_insertMember, member?_cons]
    by_cases here : k = name
    · rw [if_pos here, if_pos here, member?_eq_none (here ▸ once)]
      rfl
    · rw [if_neg here, if_neg here]

theorem canonicalMembers_eq (members : List (String × Json)) :
    canonicalMembers members = members.map fun m => (m.1, m.2.canonical) := by
  induction members with
  | nil => rfl
  | cons m rest ih => rw [canonicalMembers, ih, List.map_cons]

theorem map_canonicalMembers (members : List (String × Json)) :
    (canonicalMembers members).map (·.1) = members.map (·.1) := by
  rw [canonicalMembers_eq, List.map_map]
  rfl

/-- Every key keeps its value. -/
theorem member?_canonical (distinct : (members.map (·.1)).Nodup) :
    member? name (sortMembers (canonicalMembers members)) = (member? name members).map canonical := by
  rw [member?_sortMembers ((map_canonicalMembers members).symm ▸ distinct), canonicalMembers_eq]
  simp only [member?, List.find?_map, Option.map_map]
  rfl

theorem nodup_sortMembers (members : List (String × Json)) : ((sortMembers members).map (·.1)).Nodup :=
  List.pairwise_map.2 ((sorted_sortMembers members).imp fun before => String.ne_of_lt before)

end Members

/-! ## Values in canonical order -/

mutual

theorem canonical_of_proper : ∀ {v : Json}, v.Every IsProper → v.canonical = v
  | .null, _ => rfl
  | .bool _, _ => rfl
  | .int _, _ => rfl
  | .float _, _ => rfl
  | .str _, _ => rfl
  | .arr _, proper => congrArg Json.arr (canonicalItems_of_proper proper.2)
  | .obj members, proper => by
    rw [canonical, canonicalMembers_of_proper proper.2, sortMembers_of_sorted proper.1]

theorem canonicalItems_of_proper : ∀ {items : List Json}, EveryItem IsProper items → canonicalItems items = items
  | [], _ => rfl
  | _ :: _, proper => congrArg₂ List.cons (canonical_of_proper proper.1) (canonicalItems_of_proper proper.2)

theorem canonicalMembers_of_proper :
    ∀ {members : List (String × Json)}, EveryMember IsProper members → canonicalMembers members = members
  | [], _ => rfl
  | (_, _) :: _, proper =>
    congrArg₂ List.cons (congrArg _ (canonical_of_proper proper.1)) (canonicalMembers_of_proper proper.2)

end

mutual

/-- Putting a value into canonical order makes it proper, and adds no number. -/
theorem every_canonical : ∀ {v : Json}, v.Every IsWord → v.canonical.Every fun v => IsProper v ∧ IsWhole v
  | .null, _ => ⟨trivial, trivial⟩
  | .bool _, _ => ⟨trivial, trivial⟩
  | .int _, word => ⟨word, trivial⟩
  | .float _, word => ⟨trivial, word⟩
  | .str _, _ => ⟨trivial, trivial⟩
  | .arr _, word => ⟨⟨trivial, trivial⟩, everyItem_canonical word.2⟩
  | .obj members, word => by
    refine ⟨⟨sorted_sortMembers _, trivial⟩, everyMember_iff.2 fun m hm => ?_⟩
    exact everyMember_iff.1 (everyMember_canonical word.2) m (mem_sortMembers hm)

theorem everyItem_canonical :
    ∀ {items : List Json}, EveryItem IsWord items → EveryItem (fun v => IsProper v ∧ IsWhole v) (canonicalItems items)
  | [], _ => trivial
  | _ :: _, word => ⟨every_canonical word.1, everyItem_canonical word.2⟩

theorem everyMember_canonical : ∀ {members : List (String × Json)}, EveryMember IsWord members →
    EveryMember (fun v => IsProper v ∧ IsWhole v) (canonicalMembers members)
  | [], _ => trivial
  | (_, _) :: _, word => ⟨every_canonical word.1, everyMember_canonical word.2⟩

end

/-! ## Members that are read -/

/-- `v` stands for `a`, and `d` reads it so from memory -/
structure Recovers {α : Type} (d : Decoder α) (v : Json) (a : α) : Prop where
  given : v ≠ .null
  read : decodeValue d v.canonical = .ok a

section Recovers

variable {α : Type} {d : Decoder α} {v : Json} {a : α}

theorem recovers_str (s : String) : Recovers Decoder.string (.str s) s := ⟨Json.noConfusion, rfl⟩

theorem recovers_bool (b : Bool) : Recovers Decoder.bool (.bool b) b := ⟨Json.noConfusion, rfl⟩

theorem recovers_word (n : UInt64) : Recovers Decoder.uint64 (.word n) n := ⟨Json.noConfusion, uint64_word n .memory⟩

theorem uint32_int (n : UInt32) (src : Source) : Decoder.uint32 src (.ofJson (.int n.toNat)) = .ok n := by
  have h : (n.toNat : Int) ≤ (UInt32.size - 1 : Nat) := by
    have := n.toNat_lt
    simp only [UInt32.size]
    omega
  simp only [Decoder.uint32, Decoder.unsigned, Outline.ofJson, Int.natCast_nonneg, h, and_self, if_true, Except.map,
    Int.toNat_natCast, UInt32.ofNat_toNat]

theorem recovers_uint32 (n : UInt32) : Recovers Decoder.uint32 (.int n.toNat) n :=
  ⟨Json.noConfusion, uint32_int n .memory⟩

theorem items_value (src : Source) (os : List Outline) :
    Decoder.items Decoder.value src os = Decoder.values src os := by
  induction os with
  | nil => rfl
  | cons o rest ih => rw [Decoder.items, Decoder.values, ih]

/-- Items that are passed through untouched are what they were. -/
theorem recovers_items {items : List Json} (proper : EveryItem IsProper items) :
    Recovers (Decoder.list Decoder.value) (.arr items) items := by
  refine ⟨Json.noConfusion, ?_⟩
  have inner : Decoder.items Decoder.value .memory (Outline.ofItems items) = .ok items :=
    (items_value _ _).trans (values_ofItems proper trivial)
  rw [canonical, canonicalItems_of_proper proper]
  simp only [decodeValue, Outline.ofJson, Decoder.list, Source.enter, inner, closed, bind, Except.bind, pure,
    Except.pure]

theorem ofJson_ne_null (h : v ≠ .null) : Outline.ofJson v.canonical ≠ .null := by
  cases v <;> simp_all [canonical, Outline.ofJson]

theorem Recovers.option (h : Recovers d v a) : decodeValue (Decoder.option d) v.canonical = .ok (some a) := by
  have there := ofJson_ne_null h.given
  have read : d .memory (.ofJson v.canonical) = .ok a := h.read
  unfold decodeValue Decoder.option
  split
  · next null => exact absurd null there
  · rw [read]
    rfl

/-- A value that is written as null if it is absent is read as it was. -/
theorem option_ofOption {f : α → Json} {o : Option α} (h : ∀ a, o = some a → Recovers d (f a) a) :
    decodeValue (Decoder.option d) (ofOption f o).canonical = .ok o := by
  cases o with
  | none => rfl
  | some a => exact (h a rfl).option

end Recovers

/-! ## Members and their fields -/

/-- whether the field of its name lets a member pass -/
def Passes (fields : List Field) (m : String × Json) : Prop :=
  ∃ f, fields.find? (fun f => f.name == m.1) = some f ∧ f.check .memory (.ofJson m.2) = .ok ()

section Fields

variable {α : Type} {d : Decoder α} {v : Json} {a : α} {fields : List Field} {presence : Presence} {name : String}
  {r : Record}

theorem passes_of_read (read : decodeValue d v = .ok a)
    (field : fields.find? (fun f => f.name == name) = some (.make presence name d)) : Passes fields (name, v) := by
  have read : d .memory (.ofJson v) = .ok a := read
  exact ⟨_, field, by simp only [Field.make, read, Except.map]⟩

theorem required_of_read (src : r.src = .memory) (get : r.get? name = some (.ofJson v))
    (read : decodeValue d v = .ok a) : r.required name d = .ok a := by
  rw [Record.required, get, src]
  exact read

theorem optional_of_read {o : Option α} (src : r.src = .memory) (get : r.get? name = some (.ofJson v))
    (read : decodeValue (Decoder.option d) v = .ok o) : r.optional name d = .ok o := by
  rw [Record.optional, get, src]
  exact read

theorem defaulted_of_read (default : α) (src : r.src = .memory) (get : r.get? name = some (.ofJson v))
    (read : decodeValue d v = .ok a) : r.defaulted name default d = .ok a := by
  rw [Record.defaulted, get, src]
  exact read

/-- What was left out is absent, and what was not is read. -/
theorem defaulted_of_option {f : α → Json} {o : Option α} (src : r.src = .memory)
    (get : r.get? name = (o.map f).map fun v => .ofJson v.canonical) (h : ∀ a, o = some a → Recovers d (f a) a) :
    r.defaulted name none (Decoder.option d) = .ok o := by
  cases o with
  | none =>
    rw [Record.defaulted, get]
    rfl
  | some a => exact defaulted_of_read none src get (h a rfl).option

end Fields

/-! ## Records -/

theorem byName_ofMembers {fields : List Field} {members : List (String × Json)} {found : List (String × Outline)}
    (distinct : (found.map (·.1) ++ members.map (·.1)).Nodup) (passes : ∀ m ∈ members, Passes fields m) :
    Record.byName fields .memory (Outline.ofMembers members) found =
      .ok (found ++ members.map fun m => (m.1, .ofJson m.2)) := by
  induction members generalizing found with
  | nil => rw [List.map_nil, List.append_nil]; rfl
  | cons m rest ih =>
    obtain ⟨k, v⟩ := m
    obtain ⟨f, field, check⟩ := passes _ List.mem_cons_self
    have fresh : found.any (fun e => e.1 == k) = false := by
      rw [List.any_eq_false]
      intro e he same
      exact (List.nodup_append.1 distinct).2.2 e.1 (List.mem_map_of_mem he) k List.mem_cons_self (beq_iff_eq.1 same)
    have more := @ih (found ++ [(k, .ofJson v)])
      (by rw [List.map_append, List.append_assoc]; exact distinct)
      fun m hm => passes m (List.mem_cons_of_mem _ hm)
    rw [List.append_assoc] at more
    simp only [Outline.ofMembers, Record.byName, field, fresh, check, more, bind, Except.bind, Bool.false_eq_true,
      if_false, List.map_cons]
    rfl

/-- A record whose keys are distinct, and whose members pass their fields, is read from its object: under every name
stands what was written for it. -/
theorem record_canonical {fields : List Field} {members : List (String × Json)} (distinct : (members.map (·.1)).Nodup)
    (passes : ∀ m ∈ members, Passes fields (m.1, m.2.canonical)) :
    ∃ r, Record.read fields .memory (.ofJson (Json.obj members).canonical) = .ok r ∧ r.src = .memory ∧
      ∀ name, r.get? name = (member? name members).map fun v => .ofJson v.canonical := by
  have checked : ∀ m ∈ sortMembers (canonicalMembers members), Passes fields m := by
    intro m hm
    have hm := mem_sortMembers hm
    rw [canonicalMembers_eq] at hm
    obtain ⟨m', hm', rfl⟩ := List.mem_map.1 hm
    exact passes m' hm'
  have found : Record.byName fields .memory (Outline.ofMembers (sortMembers (canonicalMembers members))) [] = _ :=
    byName_ofMembers (nodup_sortMembers (canonicalMembers members)) checked
  rw [List.nil_append] at found
  refine ⟨⟨.memory, (sortMembers (canonicalMembers members)).map fun m => (m.1, .ofJson m.2)⟩, ?read, rfl, ?get⟩
  case read =>
    simp only [canonical, Outline.ofJson, Record.read, Source.enter, found, closed, bind, Except.bind, pure,
      Except.pure]
  case get =>
    intro name
    have kept : member? name (sortMembers (canonicalMembers members)) = (member? name members).map canonical :=
      member?_canonical distinct
    calc Record.get? _ name = (member? name (sortMembers (canonicalMembers members))).map .ofJson := by
          simp only [Record.get?, member?, List.find?_map, Function.comp_def, Option.map_map]
      _ = (member? name members).map fun v => .ofJson v.canonical := by rw [kept, Option.map_map]; rfl

/-- What reads such a record recovers what was written, if it does so from what stands under the names. -/
theorem recovers_record {α : Type} {fields : List Field} {members : List (String × Json)} {a : α}
    {build : Record → Except Fault α} (distinct : (members.map (·.1)).Nodup)
    (passes : ∀ m ∈ members, Passes fields (m.1, m.2.canonical))
    (builds : ∀ r : Record, r.src = .memory →
      (∀ name, r.get? name = (member? name members).map fun v => .ofJson v.canonical) → build r = .ok a) :
    Recovers (fun src o => Record.read fields src o >>= build) (.obj members) a where
  given := Json.noConfusion
  read := by
    obtain ⟨r, read, src, get⟩ := record_canonical distinct passes
    simp only [decodeValue, read, bind, Except.bind, builds r src get]

end Shardwire.Json
