import Shardwire.Proofs.Manager.Lineup

/-
Runs of one manager, with a chronicle of what it did.

A run goes on with moves in any order: time passes, and things happen to the manager or to one of its shards. Gateway,
limiter and callers are left open; whatever they do to the manager is a move.
-/

namespace Shardwire

structure Chronicle where
  now : Nat
  manager : Manager
  /-- what the manager did and when, in order -/
  acts : List (Nat × Manager.Act)

namespace Chronicle

inductive Move where
  /-- time goes on -/
  | tick (time : Nat)
  /-- something happens to the manager or to one of its shards -/
  | happen (x : Manager.Stimulus)

def step (r : Chronicle) : Move → Chronicle
  | .tick time => { r with now := max r.now time }
  | .happen x =>
    let t := r.manager.step r.now x
    { r with manager := t.manager, acts := r.acts ++ t.acts.map fun a => (r.now, a) }

def run (r : Chronicle) (moves : List Move) : Chronicle := moves.foldl step r

/-- a manager that was never started -/
def opening (now : Nat) (m : Manager) : Chronicle where
  now := now
  manager := { m with started := false, tasks := [], startup := none, farewells := [] }
  acts := []

/-- a shard connects, is greeted and granted a permit -/
def introduced (id : UInt32) : List Move :=
  [.happen (.shard id .opened), .happen (.shard id (.text helloText 0)), .happen (.shard id .granted)]

variable {r : Chronicle}

theorem run_cons (r : Chronicle) (v : Move) (moves : List Move) : r.run (v :: moves) = (r.step v).run moves := rfl

theorem run_append (r : Chronicle) (xs ys : List Move) : r.run (xs ++ ys) = (r.run xs).run ys := by
  simp [run, List.foldl_append]

/-- What every move of a kind keeps, a run of such moves keeps. -/
theorem run_keeps {P : Chronicle → Prop} {kind : Move → Prop} (h : ∀ r v, kind v → P r → P (r.step v))
    {moves : List Move} (hm : ∀ v ∈ moves, kind v) (hr : P r) : P (r.run moves) :=
  List.foldlRecOn moves step (motive := P) hr fun r hr v hv => h r v (hm v hv) hr

/-- `r'` is a later state of `r` -/
structure Onward (r r' : Chronicle) : Prop where
  now : r.now ≤ r'.now
  acts : r.acts <+: r'.acts

theorem step_onward (r : Chronicle) (v : Move) : Onward r (r.step v) := by
  cases v with
  | tick time => exact ⟨Nat.le_max_left r.now time, List.prefix_refl r.acts⟩
  | happen x => exact ⟨Nat.le_refl r.now, List.prefix_append r.acts _⟩

/-- What is entered for a step of the manager. -/
theorem mem_entered {acts : List (Nat × Manager.Act)} {new : List Manager.Act} {now time : Nat} {a : Manager.Act}
    (h : (time, a) ∈ acts ++ new.map fun b => (now, b)) : (time, a) ∈ acts ∨ a ∈ new := by
  rcases List.mem_append.1 h with h | h
  · exact .inl h
  · obtain ⟨b, hb, eq⟩ := List.mem_map.1 h
    cases eq
    exact .inr hb

/-! ## The lineup along a run -/

theorem step_lineup {n c : UInt32} {deadline : Nat} (h : r.manager.Lineup n c deadline) (v : Move) :
    (r.step v).manager.Lineup n c deadline := by
  cases v with
  | tick time => exact h
  | happen x => exact Manager.step_lineup r.now x h

theorem step_formed (h : r.manager.Formed) (v : Move) : (r.step v).manager.Formed := by
  cases v with
  | tick time => exact h
  | happen x => exact h.step r.now x

theorem run_formed (h : r.manager.Formed) (moves : List Move) : (r.run moves).manager.Formed :=
  List.foldlRecOn moves step (motive := fun r => r.manager.Formed) h fun _ h v _ => step_formed h v

theorem blank_opening (now : Nat) (m : Manager) : (opening now m).manager.Blank := ⟨rfl, rfl, rfl⟩

/-- Shards that were spawned stay so. -/
theorem step_grows (h : r.manager.Formed) (v : Move) : r.manager.spawned <+: (r.step v).manager.spawned := by
  cases v with
  | tick time => exact List.prefix_refl _
  | happen x => exact h.grows r.now x

end Chronicle

end Shardwire
