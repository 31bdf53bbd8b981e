import Shardwire.Proofs.Limiter.Spacing
import Shardwire.Proofs.Manager.Lineup

/-
Several managers on one limiter.

A league is a list of managers that call on the same limiter; anyone else who has a hold of it may call on it too. One
of them may own it, which is whoever made it: it clears the limiter when a shutdown of its own is over, whether or not
others go on using it. So what `Kept` says of a limiter holds of a league until then (`Steady`), and from then on calls
start on clocks that know nothing of earlier permits.

`permits_spaced_iff`: as long as no owner has stopped, permits of one bucket are at least a window apart, and they are
so in every run exactly if nobody owns the limiter.
-/

namespace Shardwire

namespace Manager

variable {m : Manager}

/-! ## Who clears the limiter -/

theorem stepShard_ownsLimiter (id : UInt32) (y : Shard.Stimulus) (now : Nat) (m : Manager) :
    (stepShard id y now m).manager.ownsLimiter = m.ownsLimiter := by
  unfold stepShard
  split <;> rfl

theorem takeLeave_clears (now : Nat) (m : Manager) :
    (takeLeave now m).manager.ownsLimiter = m.ownsLimiter ∧ (.clear ∈ (takeLeave now m).acts →
      m.ownsLimiter = true ∧ ∃ f rest, m.farewells = f :: rest ∧ f.shards.all m.hasEnded = true) := by
  unfold takeLeave
  split
  · exact ⟨rfl, by simp⟩
  · next f rest hf =>
    split
    · next all =>
      refine ⟨rfl, fun mem => ⟨?_, f, rest, hf, all⟩⟩
      by_contra borrowed
      simp [borrowed] at mem
    · split
      · -- shards that are stopped by force have nothing to do with the limiter
        have still := List.foldlRecOn f.shards (fun t id => t.next (stepShard id .abort now))
          (motive := fun (t : Turn) => t.manager.ownsLimiter = m.ownsLimiter ∧ .clear ∉ t.acts)
          (b := ⟨m, []⟩) ⟨rfl, by simp⟩ ?_
        · exact ⟨still.1, fun mem => absurd mem still.2⟩
        · rintro t ⟨same, still⟩ id -
          refine ⟨(stepShard_ownsLimiter id .abort now t.manager).trans same, fun mem => ?_⟩
          rcases List.mem_append.1 mem with mem | mem
          · exact still mem
          · obtain ⟨b, e⟩ := stepShard_acts id .abort now t.manager _ mem
            cases e
      · exact ⟨rfl, by simp⟩

theorem step_ownsLimiter (now : Nat) (x : Stimulus) (m : Manager) :
    (m.step now x).manager.ownsLimiter = m.ownsLimiter := by
  have ho := step_outcome now x m
  generalize m.step now x = t at ho ⊢
  cases ho with
  | rests | starts | spawns | closes | ends | strays | steps => rfl
  | leaves =>
    refine List.foldlRecOn m.ids _ (motive := fun (m' : Manager) => m'.ownsLimiter = m.ownsLimiter) rfl ?_
    exact fun m' same id _ => (stepShard_ownsLimiter id .stop now m').trans same
  | parts => exact (takeLeave_clears now m).1

/-- The limiter is cleared by its owner only, when a shutdown of it is over. -/
theorem step_clears {now : Nat} {x : Stimulus} (h : .clear ∈ (m.step now x).acts) :
    x = .farewell ∧ m.ownsLimiter = true ∧ ∃ f rest, m.farewells = f :: rest ∧ f.shards.all m.hasEnded = true := by
  have ho := step_outcome now x m
  generalize m.step now x = t at ho h
  cases ho with
  | rests bot replies => cases replies _ h
  | starts | closes | ends | strays => simp at h
  | spawns | steps =>
    obtain ⟨b, -, e⟩ := List.mem_map.1 h
    cases e
  | leaves => cases h
  | parts => exact ⟨rfl, (takeLeave_clears now m).2 h⟩

/-- A manager that was never started is done with a shutdown at once. -/
theorem shutdown_unstarted (h : m.tasks = []) (nobody : m.farewells = []) (now : Nat) :
    ∃ m', m.step now .shutdown = ⟨m', []⟩ ∧
      (m'.step now .farewell).acts = if m.ownsLimiter then [.clear, .stopped] else [.stopped] := by
  refine ⟨_, rfl, ?_⟩
  simp [step, ids, listed, takeLeave, h, nobody]

end Manager

open Manager (Stimulus)

/-- who calls for permits -/
inductive League.Caller where
  | shard (manager : Nat) (id : UInt32)
  /-- whoever else has a hold of the limiter -/
  | other (n : Nat)
  deriving DecidableEq, Repr

structure League where
  now : Nat
  managers : List Manager
  limiter : Limiter League.Caller
  /-- permits that were granted, in order -/
  grants : List (Grant League.Caller)
  /-- whether the limiter was ever cleared -/
  cleared : Bool

namespace League

inductive Move where
  /-- time goes on, but not past a permit that is due -/
  | tick (time : Nat)
  /-- permits that are due are granted -/
  | settle
  /-- something happens to a manager or to one of its shards -/
  | happen (manager : Nat) (x : Stimulus)
  /-- someone else calls for a permit -/
  | request (bucket : UInt32) (n : Nat)
  /-- someone else takes a call back -/
  | withdraw (n : Nat)

def performShard (k : Nat) (id : UInt32) (f : League) : Shard.Act → League
  | .enqueue =>
    match f.managers[k]?.bind (·.task? id) with
    | some t => { f with limiter := f.limiter.request t.bucket (.shard k id) f.now }
    | none => f
  | .withdraw => { f with limiter := f.limiter.withdraw (.shard k id) }
  | _ => f

def perform (k : Nat) (f : League) : Manager.Act → League
  | .shard id a => performShard k id f a
  | .clear => { f with limiter := f.limiter.clear, cleared := true }
  | _ => f

/-- something happens to a manager -/
def strike (k : Nat) (x : Stimulus) (f : League) : League :=
  match f.managers[k]? with
  | none => f
  | some m =>
    let t := m.step f.now x
    t.acts.foldl (perform k) { f with managers := f.managers.set k t.manager }

/-- a permit reaches whoever called for it -/
def take (f : League) (g : Grant Caller) : League :=
  match g.ticket with
  | .shard k id => f.strike k (.shard id .granted)
  | .other _ => f

/-- permits that are due are granted -/
def settle (f : League) : League :=
  let r := f.limiter.settle f.now
  r.1.foldl take { f with limiter := r.2, grants := f.grants ++ r.1 }

def step (f : League) : Move → League
  | .tick time =>
    if f.now ≤ time && f.limiter.nextDue?.all fun due => time ≤ due then { f with now := time } else f
  | .settle => f.settle
  | .happen k x => if x.isGrant then f else f.strike k x
  | .request bucket n => { f with limiter := f.limiter.request bucket (.other n) f.now }
  | .withdraw n => { f with limiter := f.limiter.withdraw (.other n) }

def run (f : League) (moves : List Move) : League := moves.foldl step f

/-- managers that were never started, and a limiter that nobody has used -/
def opening (window now : Nat) (managers : List Manager) : League where
  now := now
  managers := managers.map fun m => { m with started := false, tasks := [], startup := none, farewells := [] }
  limiter := .fresh window
  grants := []
  cleared := false

/-- permits of one bucket are at least a window apart -/
def Spaced (window : Nat) (grants : List (Grant Caller)) : Prop :=
  grants.Pairwise fun g h => g.bucket = h.bucket → g.time + window ≤ h.time

theorem run_append (f : League) (xs ys : List Move) : f.run (xs ++ ys) = (f.run xs).run ys := by
  simp [run, List.foldl_append]

variable {window : Nat} {f : League}

/-- What holds on whoever is granted a permit, holds on once all that are due were handed out. -/
theorem takes_keep {P : League → Prop} (h : ∀ g k id, P g → P (g.strike k (.shard id .granted)))
    (grants : List (Grant Caller)) (hf : P f) : P (grants.foldl take f) := by
  refine List.foldlRecOn grants take (motive := P) hf fun g hg x _ => ?_
  unfold take
  split
  · exact h g _ _ hg
  · exact hg

/-! ## Until the limiter is cleared -/

/-- a league whose limiter keeps permits apart, unless it was cleared -/
structure Steady (window : Nat) (f : League) : Prop where
  window : f.limiter.window = window
  kept : f.cleared = false → f.limiter.Kept f.now f.grants

theorem steady_opening (window now : Nat) (managers : List Manager) : Steady window (opening window now managers) :=
  ⟨rfl, fun _ => Limiter.kept_fresh now window⟩

theorem Steady.request (h : Steady window f) (bucket : UInt32) (who : Caller) :
    Steady window { f with limiter := f.limiter.request bucket who f.now } where
  window := (Limiter.request_window f.limiter bucket who f.now).trans h.window
  kept := fun uncleared => (h.kept uncleared).request bucket who

theorem Steady.withdraw (h : Steady window f) (who : Caller) :
    Steady window { f with limiter := f.limiter.withdraw who } :=
  ⟨h.window, fun uncleared => (h.kept uncleared).withdraw who⟩

theorem Steady.performed (h : Steady window f) (k : Nat) (a : Manager.Act) : Steady window (f.perform k a) := by
  cases a with
  | shard id a =>
    cases a with
    | enqueue =>
      simp only [perform, performShard]
      split
      · exact h.request _ _
      · exact h
    | withdraw => exact h.withdraw (.shard k id)
    | _ => exact h
  | clear => exact ⟨h.window, nofun⟩
  | _ => exact h

theorem Steady.struck (h : Steady window f) (k : Nat) (x : Stimulus) : Steady window (f.strike k x) := by
  unfold strike
  split
  · exact h
  · next m _ =>
    exact List.foldlRecOn _ (perform k) (motive := Steady window) ⟨h.window, h.kept⟩ fun _ hg a _ => hg.performed k a

theorem step_steady (h : Steady window f) (v : Move) : Steady window (f.step v) := by
  cases v with
  | tick time =>
    simp only [step]
    split
    · next ht => exact ⟨h.window, fun uncleared => (h.kept uncleared).onward ht⟩
    · exact h
  | settle =>
    exact takes_keep (P := Steady window) (fun _ k _ hg => hg.struck k _) _
      ⟨h.window, fun uncleared => (h.kept uncleared).settle⟩
  | happen k x =>
    simp only [step]
    split
    · exact h
    · exact h.struck k x
  | request bucket n => exact h.request bucket (.other n)
  | withdraw n => exact h.withdraw (.other n)

theorem run_steady (h : Steady window f) (moves : List Move) : Steady window (f.run moves) :=
  List.foldlRecOn moves step (motive := Steady window) h fun _ hg v _ => step_steady hg v

theorem Steady.spaced (h : Steady window f) (uncleared : f.cleared = false) : Spaced window f.grants :=
  h.window ▸ (h.kept uncleared).spaced

/-! ## When it is cleared -/

theorem perform_frame (k : Nat) (a : Manager.Act) (f : League) :
    (f.perform k a).managers = f.managers ∧ ((f.perform k a).cleared = true → f.cleared = true ∨ a = .clear) := by
  cases a with
  | shard id a =>
    cases a with
    | enqueue =>
      simp only [perform, performShard]
      split <;> exact ⟨rfl, .inl⟩
    | _ => exact ⟨rfl, .inl⟩
  | clear => exact ⟨rfl, fun _ => .inr rfl⟩
  | _ => exact ⟨rfl, .inl⟩

theorem performs_frame (k : Nat) (acts : List Manager.Act) (f : League) :
    (acts.foldl (perform k) f).managers = f.managers ∧
      ((acts.foldl (perform k) f).cleared = true → f.cleared = true ∨ .clear ∈ acts) := by
  refine List.foldlRecOn acts (perform k)
    (motive := fun g => g.managers = f.managers ∧ (g.cleared = true → f.cleared = true ∨ .clear ∈ acts)) ⟨rfl, .inl⟩ ?_
  rintro g ⟨same, still⟩ a ha
  obtain ⟨same', clears⟩ := perform_frame k a g
  refine ⟨same'.trans same, fun cleared => ?_⟩
  rcases clears cleared with before | rfl
  · exact still before
  · exact .inr ha

/-- whether a manager owns the limiter and a shutdown of it is over -/
def Stops (m : Manager) : Prop :=
  m.ownsLimiter = true ∧ ∃ f rest, m.farewells = f :: rest ∧ f.shards.all m.hasEnded = true

theorem strike_clears {k : Nat} {x : Stimulus} (cleared : (f.strike k x).cleared = true) :
    f.cleared = true ∨ x = .farewell ∧ ∃ m, f.managers[k]? = some m ∧ Stops m := by
  unfold strike at cleared
  split at cleared
  · exact .inl cleared
  · next m found =>
    refine ((performs_frame k _ _).2 cleared).imp_right fun mem => ?_
    obtain ⟨eq, stops⟩ := Manager.step_clears mem
    exact ⟨eq, m, found, stops⟩

theorem settle_uncleared (h : f.cleared = false) : f.settle.cleared = false := by
  refine takes_keep (P := fun g => g.cleared = false) (fun g k id uncleared => ?_) _ h
  refine Bool.eq_false_iff.2 fun cleared => ?_
  rcases strike_clears cleared with before | ⟨eq, -⟩
  · exact Bool.eq_false_iff.1 uncleared before
  · cases eq

/-- The limiter is cleared at the end of a shutdown of its owner, and at no other time. -/
theorem step_cleared {v : Move} (before : f.cleared = false) (after : (f.step v).cleared = true) :
    ∃ k m, v = .happen k .farewell ∧ f.managers[k]? = some m ∧ Stops m := by
  have idle : f.cleared ≠ true := by simp [before]
  cases v with
  | tick time =>
    simp only [step] at after
    split at after <;> exact absurd after idle
  | settle => exact absurd after (Bool.eq_false_iff.1 (settle_uncleared before))
  | happen k x =>
    simp only [step] at after
    split at after
    · exact absurd after idle
    · obtain ⟨rfl, m, found, stops⟩ := (strike_clears after).resolve_left idle
      exact ⟨k, m, rfl, found, stops⟩
  | request | withdraw => exact absurd after idle

/-! ## When nobody owns it -/

/-- the managers got the limiter from elsewhere -/
structure Borrowed (f : League) : Prop where
  managers : ∀ m ∈ f.managers, m.ownsLimiter = false
  cleared : f.cleared = false

theorem Borrowed.struck (h : Borrowed f) (k : Nat) (x : Stimulus) : Borrowed (f.strike k x) := by
  have uncleared : (f.strike k x).cleared = false := by
    refine Bool.eq_false_iff.2 fun cleared => ?_
    rcases strike_clears cleared with before | ⟨-, m, found, owns, -⟩
    · rw [h.cleared] at before
      cases before
    · rw [h.managers m (List.mem_of_getElem? found)] at owns
      cases owns
  refine ⟨?_, uncleared⟩
  unfold strike
  split
  · exact h.managers
  · next m found =>
    rw [(performs_frame k _ _).1]
    intro m' hm'
    rcases List.mem_or_eq_of_mem_set hm' with hm' | rfl
    · exact h.managers m' hm'
    · exact (Manager.step_ownsLimiter f.now x m).trans (h.managers m (List.mem_of_getElem? found))

theorem step_borrowed (h : Borrowed f) (v : Move) : Borrowed (f.step v) := by
  cases v with
  | tick time =>
    simp only [step]
    split
    · exact ⟨h.managers, h.cleared⟩
    · exact h
  | settle => exact takes_keep (P := Borrowed) (fun _ k _ hg => hg.struck k _) _ ⟨h.managers, h.cleared⟩
  | happen k x =>
    simp only [step]
    split
    · exact h
    · exact h.struck k x
  | request bucket n => exact ⟨h.managers, h.cleared⟩
  | withdraw n => exact ⟨h.managers, h.cleared⟩

theorem run_borrowed (h : Borrowed f) (moves : List Move) : Borrowed (f.run moves) :=
  List.foldlRecOn moves step (motive := Borrowed) h fun _ hg v _ => step_borrowed hg v

/-! ## When someone does -/

/-- The first call on a limiter that knows of no permits is granted at once. -/
theorem granted_at_once (f : League) (window : Nat) (fresh : f.limiter = .fresh window) (bucket : UInt32) (n : Nat) :
    f.run [.request bucket n, .settle] =
      { f with
        limiter := ⟨window, [⟨bucket, some f.now, []⟩], []⟩
        grants := f.grants ++ [⟨bucket, .other n, f.now⟩] } := by
  simp [run, step, settle, fresh, Limiter.fresh, Limiter.request, Limiter.settle, Limiter.settleClock,
    Limiter.grantsDue, Limiter.dueTime, take]

theorem strike_eq {k : Nat} {m : Manager} (found : f.managers[k]? = some m) (x : Stimulus) :
    f.strike k x =
      (m.step f.now x).acts.foldl (perform k) { f with managers := f.managers.set k (m.step f.now x).manager } := by
  simp [strike, found]

/-- Whoever owns the limiter may clear it at any moment before its start. -/
theorem owner_clears {k : Nat} {m : Manager} (found : f.managers[k]? = some m) (unstarted : m.tasks = [])
    (nobody : m.farewells = []) (owns : m.ownsLimiter = true) :
    ∃ managers, f.run [.happen k .shutdown, .happen k .farewell] =
      { f with managers := managers, limiter := f.limiter.clear, cleared := true } := by
  obtain ⟨m', leaves, parts⟩ := Manager.shutdown_unstarted unstarted nobody f.now
  obtain ⟨lt, -⟩ := List.getElem?_eq_some_iff.1 found
  have first : f.strike k .shutdown = { f with managers := f.managers.set k m' } := by
    rw [strike_eq found, leaves]
    rfl
  have found' : (f.strike k .shutdown).managers[k]? = some m' := by simp [first, lt]
  have second := strike_eq found' .farewell
  rw [first, parts, if_pos owns] at second
  refine ⟨_, Eq.trans ?_ second⟩
  rw [← first]
  rfl

/-! ## Permits and the owner -/

/-- As long as no owner of the limiter has stopped, permits of one bucket are at least a window apart. The limiter loses
its history at the end of a shutdown of its owner, and at no other time; so permits are kept apart in every run exactly
if nobody owns it. -/
theorem permits_spaced_iff (window now : Nat) (managers : List Manager) (positive : 0 < window) :
    let start := opening window now managers
    (∀ moves, (start.run moves).cleared = false → Spaced window (start.run moves).grants) ∧
      (∀ moves v, (start.run moves).cleared = false → ((start.run moves).step v).cleared = true →
        ∃ k m, v = .happen k .farewell ∧ (start.run moves).managers[k]? = some m ∧ Stops m) ∧
      ((∀ moves, Spaced window (start.run moves).grants) ↔ ∀ m ∈ managers, m.ownsLimiter = false) := by
  intro start
  have spaced (moves : List Move) (uncleared : (start.run moves).cleared = false) :
      Spaced window (start.run moves).grants :=
    (run_steady (steady_opening window now managers) moves).spaced uncleared
  refine ⟨spaced, fun moves v before after => step_cleared before after, fun always m hm => ?_, fun lent moves => ?_⟩
  · -- someone is granted a permit before the owner stops, and another one afterwards
    by_contra owned
    have owns : m.ownsLimiter = true := by simpa using owned
    obtain ⟨k, found⟩ := List.mem_iff_getElem?.1 hm
    have first := granted_at_once start window rfl 0 0
    have found' : (start.run [.request 0 0, .settle]).managers[k]? =
        some { m with started := false, tasks := [], startup := none, farewells := [] } := by
      rw [first]
      simp [start, opening, found]
    obtain ⟨managers', cleared⟩ := owner_clears found' rfl rfl owns
    have second := granted_at_once
      ((start.run [.request 0 0, .settle]).run [.happen k .shutdown, .happen k .farewell]) window
      (by rw [cleared, first]; rfl) 0 1
    have close := always
      (([.request 0 0, .settle] ++ [.happen k .shutdown, .happen k .farewell]) ++ [.request 0 1, .settle])
    rw [run_append, run_append, second, cleared, first] at close
    have := (List.pairwise_cons.1 close).1 _ (List.mem_singleton.2 rfl) rfl
    dsimp only at this
    omega
  · have borrowed : Borrowed start := by
      refine ⟨fun m' hm' => ?_, rfl⟩
      obtain ⟨m, hm, rfl⟩ := List.mem_map.1 hm'
      exact lent m hm
    exact spaced moves (run_borrowed borrowed moves).cleared

/-- a manager starts one shard, which is greeted -/
def started (k : Nat) : List Move :=
  [.happen k (.start 1 1), .happen k (.lane 0), .happen k (.shard 0 .opened),
    .happen k (.shard 0 (.text helloText 0)), .settle]

/-- a manager stops its shard -/
def stopped (k : Nat) : List Move := [.happen k .shutdown, .happen k (.shard 0 .take), .happen k .farewell]

/-- a manager that got its limiter from elsewhere -/
def borrower : Manager := { Manager.new (.usual "t") with ownsLimiter := false }

/-- Of two managers that got the limiter from elsewhere, one stops; the other waits for its permit all the same. -/
theorem permits_spaced_iff_borrowers :
    let f := (opening Limiter.gatewayWindow 0 [borrower, borrower]).run
      (started 0 ++ [.tick 1000] ++ stopped 0 ++ started 1 ++ [.tick 5000, .settle])
    0 < Limiter.gatewayWindow ∧ f.grants = [⟨0, .shard 0 0, 0⟩, ⟨0, .shard 1 0, 5000⟩] ∧
      Spaced Limiter.gatewayWindow f.grants := by
  intro f
  have positive : 0 < Limiter.gatewayWindow := by decide
  exact ⟨positive, by decide +kernel,
    (permits_spaced_iff Limiter.gatewayWindow 0 [borrower, borrower] positive).2.2.2 (by decide) _⟩

/-- A manager stops that made the limiter: another one that shares it is granted a permit a second after the last. -/
theorem permits_crowded :
    let f := (opening Limiter.gatewayWindow 0 [.new (.usual "t"), borrower]).run
      (started 0 ++ [.tick 1000] ++ stopped 0 ++ started 1)
    f.grants = [⟨0, .shard 0 0, 0⟩, ⟨0, .shard 1 0, 1000⟩] ∧ ¬ Spaced Limiter.gatewayWindow f.grants := by
  intro f
  have granted : f.grants = [⟨0, .shard 0 0, 0⟩, ⟨0, .shard 1 0, 1000⟩] := by decide +kernel
  refine ⟨granted, fun spaced => ?_⟩
  rw [granted] at spaced
  have := (List.pairwise_cons.1 spaced).1 _ (List.mem_singleton.2 rfl) rfl
  simp [Limiter.gatewayWindow] at this

end League

end Shardwire
