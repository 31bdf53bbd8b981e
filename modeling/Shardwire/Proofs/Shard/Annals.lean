import Shardwire.Proofs.Shard.Journal

/-
The annals of one shard: every step it took, in order.

An entry keeps when something happened to the shard, what it was, and how the shard was before; what the shard did about
it follows from these. Annals begin with the first attempt to connect and go on with any stimuli at any times.
`AtEach` is how a property of entries, each with those before it, is carried from step to step.
-/

namespace Shardwire

namespace Shard

/-- the message it sends -/
def Act.message? : Act → Option Message
  | .write m => some m
  | _ => none

/-- a step of a shard -/
structure Entry where
  time : Nat
  /-- what happened -/
  cause : Stimulus
  before : Shard

namespace Entry

def turn (e : Entry) : Turn := e.before.step e.time e.cause

def after (e : Entry) : Shard := e.turn.shard

def acts (e : Entry) : List Act := e.turn.acts

/-- whether it opens a connection -/
def opensLine (e : Entry) : Bool := e.before.opensLine e.cause

/-- messages that are sent -/
def writes (e : Entry) : List Message := e.acts.filterMap Act.message?

/-- frames that are sent -/
def frames (e : Entry) : List Act := e.acts.filter Act.isFrame

theorem mem_frames {e : Entry} {a : Act} : a ∈ e.frames ↔ a ∈ e.acts ∧ a.isFrame = true := List.mem_filter

theorem mem_writes {e : Entry} {m : Message} : m ∈ e.writes ↔ .write m ∈ e.acts := by
  constructor
  · intro h
    obtain ⟨a, ha, hm⟩ := List.mem_filterMap.1 h
    cases a <;> simp only [Act.message?, reduceCtorEq, Option.some.injEq] at hm
    exact hm ▸ ha
  · exact fun h => List.mem_filterMap.2 ⟨.write m, h, rfl⟩

end Entry

/-! ### Histories of entries of any kind -/

section History

variable {ε : Type}

/-- `P` holds of every entry and those before it -/
def AtEach (P : List ε → ε → Prop) (entries : List ε) : Prop :=
  ∀ pre e post, entries = pre ++ e :: post → P pre e

theorem atEach_nil (P : List ε → ε → Prop) : AtEach P [] := by
  intro pre e post h
  simp at h

/-- An entry of a longer history is the last one, or was there before. -/
theorem snoc_split {entries pre post : List ε} {last e : ε} (h : entries ++ [last] = pre ++ e :: post) :
    (pre = entries ∧ e = last ∧ post = []) ∨ ∃ rest, post = rest ++ [last] ∧ entries = pre ++ e :: rest := by
  rcases List.eq_nil_or_concat post with rfl | ⟨rest, d, rfl⟩
  · obtain ⟨rfl, hd⟩ := List.append_inj' h rfl
    cases hd
    exact .inl ⟨rfl, rfl, rfl⟩
  · have h' : entries ++ [last] = (pre ++ e :: rest) ++ [d] := by simpa using h
    obtain ⟨eq, hd⟩ := List.append_inj' h' rfl
    cases hd
    exact .inr ⟨rest, by simp, eq⟩

theorem AtEach.snoc {P : List ε → ε → Prop} {entries : List ε} {e : ε} (h : AtEach P entries) (he : P entries e) :
    AtEach P (entries ++ [e]) := by
  intro pre d post eq
  rcases snoc_split eq with ⟨rfl, rfl, -⟩ | ⟨rest, -, eq'⟩
  · exact he
  · exact h pre d rest eq'

theorem AtEach.one {P : List ε → ε → Prop} {e : ε} (he : P [] e) : AtEach P [e] := (atEach_nil P).snoc he

end History

end Shard

open Shard (Stimulus Act)

structure Annals where
  shard : Shard
  /-- every step so far, the first one first -/
  entries : List Shard.Entry

namespace Annals

/-- the step that comes next -/
def entry (now : Nat) (x : Stimulus) (a : Annals) : Shard.Entry := ⟨now, x, a.shard⟩

def step (now : Nat) (x : Stimulus) (a : Annals) : Annals where
  shard := (a.entry now x).after
  entries := a.entries ++ [a.entry now x]

/-- a shard asks for its first connection -/
def opening (profile : ShardProfile) (address : ShardAddress) (now : Nat) : Annals :=
  step now .timeout ⟨Shard.fresh profile address now, []⟩

def run (a : Annals) (xs : List (Nat × Stimulus)) : Annals := xs.foldl (fun a e => a.step e.1 e.2) a

/-- the steps since the last connection was opened, with the one that opened it -/
def connection (a : Annals) : List Shard.Entry := a.entries.foldl (fun l e => if e.opensLine then [e] else l ++ [e]) []

/-- What one step keeps, a run keeps. -/
theorem run_keeps {P : Annals → Prop} {ok : Stimulus → Prop} (h : ∀ now x a, ok x → P a → P (a.step now x))
    {xs : List (Nat × Stimulus)} (hx : ∀ e ∈ xs, ok e.2) {a : Annals} (ha : P a) : P (a.run xs) :=
  List.foldlRecOn xs _ (motive := P) ha fun a ha e he => h e.1 e.2 a (hx e he) ha

theorem opening_shard (profile : ShardProfile) (address : ShardAddress) (now : Nat) :
    (opening profile address now).shard = (Shard.launch profile address now).shard := by
  simp [opening, step, entry, Shard.Entry.after, Shard.Entry.turn, Shard.step, Shard.expire, Shard.fresh, Shard.launch]

theorem step_connection (now : Nat) (x : Stimulus) (a : Annals) :
    (a.step now x).connection =
      (if a.shard.opensLine x then [] else a.connection) ++ [a.entry now x] := by
  simp only [connection, step, List.foldl_append, List.foldl_cons, List.foldl_nil]
  show (if a.shard.opensLine x = true then _ else _) = _
  split <;> rfl

/-! ## What a journal notes -/

theorem notes_wire (acts : List Act) (j : Journal) :
    (acts.foldl Journal.note j).wire = j.wire ++ acts.filterMap Act.message? := by
  induction acts generalizing j with
  | nil => simp
  | cons a acts ih =>
    rw [List.foldl_cons, ih]
    cases a <;> simp [Journal.note, Act.message?, List.filterMap_cons]

theorem notes_hellos (acts : List Act) (j : Journal) : (acts.foldl Journal.note j).hellos = j.hellos :=
  List.foldlRecOn acts Journal.note (motive := fun k => k.hellos = j.hellos) rfl fun k hk a _ => by
    rw [← hk]
    cases a <;> rfl

end Annals

end Shardwire
