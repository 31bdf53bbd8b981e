import Shardwire.Proofs.Manager.Chronicle

/-
From its start on, a manager that nobody stops.

Runs are calm: nobody asks the manager or one of its shards to stop. `Underway` is what holds of a manager then: every
shard stays in the registry, and is fine, in whatever sense a step of a shard keeps (`Underway.keeps`).

On a clock without an end a shard runs until it fails, and a lane goes on only when its shard is ready or has failed, or
when the start has run out of time. So every shard that no lane waits for any more was shown as ready at some moment, or
has failed, or time is up (`Rising.awaited`). `step_rising` shows that every move keeps this, `Dormant.starts` that a
start begins so.
-/

namespace Shardwire

namespace Manager

/-- whether it may reach a manager that nobody stops -/
def Stimulus.isCalm : Stimulus → Bool
  | .shutdown => false
  | .shard _ y => !y.isStop
  | _ => true

theorem Stimulus.Brings.isCalm {x : Stimulus} {id : UInt32} {y : Shard.Stimulus} (h : x.Brings id y)
    (hx : x.isCalm = true) : y.isStop = false := by
  cases h with
  | shard => simpa [Stimulus.isCalm] using hx
  | submit => rfl

/-- Nobody waits for shards that were never there. -/
theorem takeLeave_idle {m : Manager} (distinct : m.spawned.Nodup) (alone : ∀ f ∈ m.farewells, f.shards = [])
    (now : Nat) : ∃ rest acts, takeLeave now m = ⟨{ m with farewells := rest }, acts⟩ ∧
      (∀ f ∈ rest, f ∈ m.farewells) ∧ ∀ id a, .shard id a ∉ acts := by
  rcases takeLeave_cases distinct now with ⟨-, eq⟩ | ⟨f, rest, hf, ⟨-, eq⟩ | ⟨some_left, -⟩⟩
  · exact ⟨m.farewells, [], eq, fun _ hg => hg, by simp⟩
  · refine ⟨rest, _, eq, fun g hg => hf ▸ List.mem_cons_of_mem _ hg, fun id a mem => ?_⟩
    split at mem <;> simp at mem
  · rw [alone f (hf ▸ List.mem_cons_self)] at some_left
    cases some_left

/-- a manager without shards, and without a start under way -/
structure Vacant (m : Manager) : Prop where
  tasks : m.tasks = []
  startup : m.startup = none
  /-- whoever asked it to stop did so before there were shards -/
  farewells : ∀ f ∈ m.farewells, f.shards = []

/-- Without shards it stays, unless a start is accepted. -/
theorem Vacant.step {m : Manager} (h : Vacant m) (now : Nat) (x : Stimulus) :
    (Vacant (m.step now x).manager ∧ (m.step now x).manager.started = m.started ∧
        ∀ id a, .shard id a ∉ (m.step now x).acts) ∨
      m.started = false ∧ ∃ n c deadline, Lineup n c deadline (m.step now x).manager := by
  have none : m.ids = [] := by simp [ids, listed, h.tasks]
  have ho := step_outcome now x m
  generalize m.step now x = t at ho ⊢
  cases ho with
  | rests bot replies =>
    refine .inl ⟨⟨h.tasks, h.startup, h.farewells⟩, rfl, fun id a mem => ?_⟩
    cases replies _ mem
  | starts bot unstarted spread =>
    have blank : m.Blank := ⟨unstarted, h.tasks, h.startup⟩
    exact .inr ⟨unstarted, _, _, _, blank.lineup spread _ bot _⟩
  | spawns startup | closes startup | ends startup | strays startup =>
    rw [h.startup] at startup
    cases startup
  | steps brings found =>
    have mem := (task?_mem found).1
    rw [h.tasks] at mem
    cases mem
  | leaves =>
    simp only [shutdown, none, List.foldl_nil]
    refine .inl ⟨⟨by simp [h.tasks], h.startup, fun f hf => ?_⟩, trivial, by simp⟩
    rcases List.mem_append.1 hf with hf | hf
    · exact h.farewells f hf
    · rw [List.mem_singleton.1 hf]
  | parts =>
    obtain ⟨rest, acts, eq, fewer, quiet⟩ := takeLeave_idle (by simp [spawned, h.tasks]) h.farewells now
    rw [eq]
    exact .inl ⟨⟨h.tasks, h.startup, fun f hf => h.farewells f (fewer f hf)⟩, rfl, quiet⟩

/-! ## From the start on -/

section Underway

variable {fine : Shard → Prop} {n c : UInt32} {deadline now : Nat} {m : Manager}

/-- a manager that nobody stopped since its start, with shards that are all fine -/
structure Underway (fine : Shard → Prop) (shards maxConcurrency : UInt32) (deadline : Nat) (m : Manager) : Prop where
  lineup : m.Lineup shards maxConcurrency deadline
  /-- whoever asked it to stop did so before there were shards -/
  farewells : ∀ f ∈ m.farewells, f.shards = []
  tasks : ∀ t ∈ m.tasks, t.listed = true ∧ fine t.shard

/-- a step that leaves it so, and in which only shards that were spawned act -/
structure Turn.Keeps (fine : Shard → Prop) (shards maxConcurrency : UInt32) (deadline : Nat) (t : Turn) : Prop where
  underway : t.manager.Underway fine shards maxConcurrency deadline
  known : ∀ id a, .shard id a ∈ t.acts → id ∈ t.manager.spawned

namespace Underway

variable (h : Underway fine n c deadline m)
include h

/-- Something happens to a shard, which stays fine. -/
theorem updated {id : UInt32} {t : Task} (found : m.task? id = some t) (y : Shard.Stimulus)
    (kept : fine (t.shard.step now y).shard) : (stepShard id y now m).Keeps fine n c deadline := by
  have same := update_alike h.lineup.distinct found now y
  obtain ⟨mem, own⟩ := task?_mem found
  rw [stepShard_eq found]
  refine ⟨⟨same.lineup h.lineup, h.farewells, fun t' ht' => ?_⟩, fun i a ha => ?_⟩
  · rcases mem_update h.lineup.distinct found ht' with ht | rfl
    · exact h.tasks t' ht
    · exact ⟨(h.tasks t mem).1, kept⟩
  · obtain ⟨b, -, eq⟩ := List.mem_map.1 ha
    cases eq
    rw [same.spawned]
    exact List.mem_map.2 ⟨t, mem, own⟩

/-- A lane spawns its next shard. -/
theorem spawns {s : Startup} {l : Lane} {id : UInt32} {rest : List UInt32} {k : Task} (startup : m.startup = some s)
    (lane : l ∈ s.lanes) (next : l.queue = id :: rest) (own : k.shard.id = id) (listed : k.listed = true)
    (kept : fine k.shard) (acts : List Shard.Act) :
    Turn.Keeps fine n c deadline
      ⟨{ m with
          tasks := m.tasks ++ [k]
          startup := some
            { s with lanes := s.lanes.map fun k => if k.bucket = l.bucket then l.spawn id rest else k } },
        acts.map (.shard id)⟩ := by
  have grown (startup : Option Startup) :
      spawned { m with tasks := m.tasks ++ [k], startup := startup } = m.spawned ++ [id] :=
    own ▸ spawned_append m k startup
  refine ⟨⟨h.lineup.spawns startup lane next rfl rfl (grown _), h.farewells, fun t ht => ?_⟩, fun i a ha => ?_⟩
  · rcases List.mem_append.1 ht with ht | ht
    · exact h.tasks t ht
    · cases List.mem_singleton.1 ht
      exact ⟨listed, kept⟩
  · obtain ⟨b, -, eq⟩ := List.mem_map.1 ha
    cases eq
    rw [grown]
    exact List.mem_append_right _ (List.mem_singleton.2 rfl)

/-- What nobody's stop is about leaves it so. -/
theorem keeps (launched : ∀ profile address, fine (Shard.launch profile address now).shard)
    (stepped : ∀ s y, Shard.Stimulus.isStop y = false → fine s → fine (s.step now y).shard) {x : Stimulus}
    (calm : x.isCalm = true) : (m.step now x).Keeps fine n c deadline := by
  have lineup := step_lineup now x h.lineup
  have ho := step_outcome now x m
  generalize m.step now x = t at ho lineup ⊢
  cases ho with
  | rests bot replies => exact ⟨⟨lineup, h.farewells, h.tasks⟩, fun id a mem => nomatch replies _ mem⟩
  | starts bot unstarted => cases h.lineup.started.symm.trans unstarted
  | spawns startup lane free next made =>
    exact h.spawns startup lane next (launch_id made _ _) rfl (launched _ _) _
  | closes | ends => exact ⟨⟨lineup, h.farewells, h.tasks⟩, by simp⟩
  | strays startup lane next unmade => exact (h.lineup.addressed startup lane next unmade).elim
  | steps brings found =>
    exact stepShard_eq found _ now ▸
      h.updated found _ (stepped _ _ (brings.isCalm calm) (h.tasks _ (task?_mem found).1).2)
  | leaves => cases calm
  | parts =>
    obtain ⟨rest, acts, eq, fewer, quiet⟩ := takeLeave_idle h.lineup.distinct h.farewells now
    rw [eq] at lineup ⊢
    exact ⟨⟨lineup, fun f hf => h.farewells f (fewer f hf), h.tasks⟩, fun id a mem => (quiet id a mem).elim⟩

/-- A lane waits for its shard until it may go on. -/
theorem waits (now : Nat) {x : Stimulus} (calm : x.isCalm = true) {l : Lane} (hl : l ∈ m.lanes) {id : UInt32}
    (current : l.current = some id) :
    (∃ l' ∈ (m.step now x).manager.lanes, l'.current = some id) ∨
      ∃ s, m.startup = some s ∧ m.mayAdvance s l now = true := by
  have ho := step_outcome now x m
  generalize m.step now x = t at ho ⊢
  cases ho with
  | rests | steps => exact .inl ⟨l, hl, current⟩
  | starts bot unstarted => cases h.lineup.started.symm.trans unstarted
  | @spawns s k id' rest address startup lane free next made =>
    by_cases same : l.bucket = k.bucket
    · cases h.lineup.lane_unique hl (lanes_of_some startup ▸ lane) same
      exact .inr ⟨s, startup, free⟩
    · exact .inl ⟨l, List.mem_map.2 ⟨l, lanes_of_some startup ▸ hl, by rw [if_neg same]⟩, current⟩
  | @closes s k startup lane free =>
    by_cases same : l.bucket = k.bucket
    · cases h.lineup.lane_unique hl (lanes_of_some startup ▸ lane) same
      exact .inr ⟨s, startup, free⟩
    · exact .inl ⟨l, List.mem_filter.2 ⟨lanes_of_some startup ▸ hl, by simpa using same⟩, current⟩
  | @ends s k startup lane free through last =>
    have lanes := lanes_of_some startup
    cases h.lineup.lane_unique hl (lanes ▸ lane) (last l (lanes ▸ hl))
    exact .inr ⟨s, startup, free⟩
  | strays startup lane next unmade => exact (h.lineup.addressed startup lane next unmade).elim
  | leaves => cases calm
  | parts =>
    obtain ⟨rest, acts, eq, -, -⟩ := takeLeave_idle h.lineup.distinct h.farewells now
    rw [eq]
    exact .inl ⟨l, hl, current⟩

/-- Where a shard comes from: it was there before, or something happened to one that was, or a lane has spawned it and
waits for it. -/
theorem comes (now : Nat) {x : Stimulus} (calm : x.isCalm = true) {t' : Task}
    (ht' : t' ∈ (m.step now x).manager.tasks) :
    t' ∈ m.tasks ∨
      (∃ t ∈ m.tasks, ∃ y, t' = { t with shard := (t.shard.step now y).shard } ∧
        ∀ a ∈ (t.shard.step now y).acts, .shard t.shard.id a ∈ (m.step now x).acts) ∨
      t'.shard.status ≠ .ready ∧ ∃ l ∈ (m.step now x).manager.lanes, l.current = some t'.shard.id := by
  have ho := step_outcome now x m
  generalize m.step now x = t at ho ht' ⊢
  cases ho with
  | rests | closes | ends => exact .inl ht'
  | starts bot unstarted => cases h.lineup.started.symm.trans unstarted
  | @spawns s l id rest address startup lane free next made =>
    rcases List.mem_append.1 ht' with ht | ht
    · exact .inl ht
    · cases List.mem_singleton.1 ht
      refine .inr (.inr ⟨by rw [launch_eq]; exact nofun, l.spawn id rest, ?_, ?_⟩)
      · exact List.mem_map.2 ⟨l, lane, by rw [if_pos rfl]⟩
      · rw [launch_id made]
        rfl
  | strays startup lane next unmade => exact (h.lineup.addressed startup lane next unmade).elim
  | @steps _ id y task brings found =>
    rcases mem_update h.lineup.distinct found ht' with ht | rfl
    · exact .inl ht
    · obtain ⟨mem, own⟩ := task?_mem found
      exact .inr (.inl ⟨task, mem, y, rfl, fun a ha => own ▸ List.mem_map_of_mem ha⟩)
  | leaves => cases calm
  | parts =>
    obtain ⟨rest, acts, eq, -, -⟩ := takeLeave_idle h.lineup.distinct h.farewells now
    rw [eq] at ht'
    exact .inl ht'

end Underway

end Underway

end Manager

open Manager (Stimulus)

namespace Chronicle

variable {n c : UInt32} {deadline : Nat} {r : Chronicle}

/-- whether it may reach a manager that nobody stops -/
def Move.isCalm : Move → Bool
  | .tick _ => true
  | .happen x => x.isCalm

/-- whether a shard was shown as ready, now or earlier -/
def WasReady (r : Chronicle) (id : UInt32) : Prop := ∃ time, (time, .shard id (.publish .ready)) ∈ r.acts

theorem WasReady.onward {r' : Chronicle} {id : UInt32} (h : r.WasReady id) (later : r.Onward r') : r'.WasReady id :=
  h.imp fun _ mem => later.acts.subset mem

/-! ## Runs from the start on -/

/-- a manager that nobody stopped since its start, with shards that ran until they failed -/
structure Rising (shards maxConcurrency : UInt32) (deadline : Nat) (r : Chronicle) : Prop extends
    Manager.Underway Shard.Unasked shards maxConcurrency deadline r.manager where
  known : ∀ time id a, (time, .shard id a) ∈ r.acts → id ∈ r.manager.spawned
  shown : ∀ t ∈ r.manager.tasks, t.shard.status = .ready → r.WasReady t.shard.id
  /-- a shard that no lane waits for has come up or failed, unless the start ran out of time -/
  awaited : ∀ t ∈ r.manager.tasks, (∃ l ∈ r.manager.lanes, l.current = some t.shard.id) ∨
    deadline ≤ r.now ∨ t.shard.status = .failed ∨ r.WasReady t.shard.id

/-- A lane that need not wait for a shard has seen it ready or failed, unless the start ran out of time. -/
theorem Rising.freed (h : Rising n c deadline r) {s : Manager.Startup} {l : Manager.Lane}
    (startup : r.manager.startup = some s) (free : r.manager.mayAdvance s l r.now = true) {t : Manager.Task}
    (ht : t ∈ r.manager.tasks) (current : l.current = some t.shard.id) :
    deadline ≤ r.now ∨ t.shard.status = .failed ∨ r.WasReady t.shard.id := by
  simp only [Manager.mayAdvance, current, Bool.or_eq_true, decide_eq_true_iff] at free
  rcases free with late | settled
  · exact .inl ((h.lineup.startup s startup).2.1 ▸ late)
  · rw [Manager.task?_of_mem h.lineup.distinct ht] at settled
    rcases (h.tasks t ht).2.settled_iff.1 settled with ready | failed
    · exact .inr (.inr (h.shown t ht ready))
    · exact .inr (.inl failed)

theorem Rising.later (h : Rising n c deadline r) (time : Nat) : Rising n c deadline (r.step (.tick time)) where
  toUnderway := h.toUnderway
  known := h.known
  shown := h.shown
  awaited := fun t ht =>
    (h.awaited t ht).imp_right (Or.imp_left fun late => Nat.le_trans late (Nat.le_max_left r.now time))

theorem step_rising (h : Rising n c deadline r) {v : Move} (calm : v.isCalm = true) :
    Rising n c deadline (r.step v) := by
  cases v with
  | tick time => exact h.later time
  | happen x =>
    have done := h.toUnderway.keeps (Shard.launch_unasked · · r.now)
      (fun _ _ hy unasked => Shard.step_unasked r.now hy unasked) calm
    have later := step_onward r (.happen x)
    have still {t : Manager.Task} (ht : t ∈ r.manager.tasks) :
        (∃ l ∈ (r.step (.happen x)).manager.lanes, l.current = some t.shard.id) ∨
          deadline ≤ r.now ∨ t.shard.status = .failed ∨ (r.step (.happen x)).WasReady t.shard.id := by
      rcases h.awaited t ht with ⟨l, hl, current⟩ | late | failed | ready
      · rcases h.toUnderway.waits r.now calm hl current with waits | ⟨s, startup, free⟩
        · exact .inl waits
        · exact .inr ((h.freed startup free ht current).imp_right (Or.imp_right (·.onward later)))
      · exact .inr (.inl late)
      · exact .inr (.inr (.inl failed))
      · exact .inr (.inr (.inr (ready.onward later)))
    refine { done.underway with known := ?known, shown := ?shown, awaited := ?awaited }
    case known =>
      intro time id a mem
      rcases mem_entered mem with before | new
      · have mem := h.known time id a before
        rcases Manager.step_spawned r.now x h.lineup with same | ⟨_, _, _, _, -, -, -, -, grown⟩
        · exact same ▸ mem
        · exact grown ▸ List.mem_append_left _ mem
      · exact done.known id a new
    case shown =>
      intro t' ht' ready
      rcases h.toUnderway.comes r.now calm ht' with ht | ⟨t, ht, y, rfl, acts⟩ | ⟨unready, -⟩
      · exact (h.shown t' ht ready).onward later
      · dsimp only at ready ⊢
        rw [Shard.step_id]
        rcases Shard.step_readies r.now y t.shard ready with before | said
        · exact (h.shown t ht before).onward later
        · exact ⟨r.now, List.mem_append_right _ (List.mem_map_of_mem (acts _ said))⟩
      · exact absurd ready unready
    case awaited =>
      intro t' ht'
      rcases h.toUnderway.comes r.now calm ht' with ht | ⟨t, ht, y, rfl, -⟩ | ⟨-, waits⟩
      · exact still ht
      · dsimp only
        rw [Shard.step_id]
        refine (still ht).imp_right (Or.imp_right (Or.imp_left fun failed => ?_))
        -- a shard that has failed is over
        exact (Shard.step_ended r.now y ((h.tasks t ht).2.ended.2 failed)).2.1.trans failed
      · exact .inl waits

theorem run_rising (h : Rising n c deadline r) {moves : List Move} (calm : ∀ v ∈ moves, v.isCalm = true) :
    Rising n c deadline (r.run moves) :=
  run_keeps (P := Rising n c deadline) (fun _ _ hv hr => step_rising hr hv) calm h

/-! ## Before the start -/

/-- a run in which there were no shards yet -/
structure Void (r : Chronicle) : Prop where
  vacant : r.manager.Vacant
  silent : ∀ time id a, (time, .shard id a) ∉ r.acts

/-- a run before the start -/
structure Dormant (r : Chronicle) : Prop extends Void r where
  unstarted : r.manager.started = false

theorem Dormant.blank (h : Dormant r) : r.manager.Blank := ⟨h.unstarted, h.vacant.tasks, h.vacant.startup⟩

theorem dormant_opening (now : Nat) (m : Manager) : Dormant (opening now m) where
  vacant := ⟨rfl, rfl, by simp [opening]⟩
  unstarted := rfl
  silent := by simp [opening]

theorem step_dormant (h : Dormant r) (v : Move) :
    Dormant (r.step v) ∨ ∃ n c deadline, (r.step v).manager.Lineup n c deadline := by
  cases v with
  | tick time => exact .inl ⟨⟨h.vacant, h.silent⟩, h.unstarted⟩
  | happen x =>
    rcases h.vacant.step r.now x with ⟨vacant, same, quiet⟩ | ⟨-, lineup⟩
    · refine .inl ⟨⟨vacant, fun time id a mem => ?_⟩, same.trans h.unstarted⟩
      exact (mem_entered mem).elim (h.silent time id a) (quiet id a)
    · exact .inr lineup

theorem dormant_of_unstarted {start : Nat} {m : Manager} {moves : List Move}
    (unstarted : ((opening start m).run moves).manager.started = false) : Dormant ((opening start m).run moves) := by
  have h : Dormant ((opening start m).run moves) ∨
      ∃ n c deadline, ((opening start m).run moves).manager.Lineup n c deadline := by
    refine List.foldlRecOn moves step
      (motive := fun r => Dormant r ∨ ∃ n c deadline, r.manager.Lineup n c deadline)
      (.inl (dormant_opening start m)) ?_
    rintro r (dormant | ⟨n, c, deadline, lineup⟩) v -
    · exact step_dormant dormant v
    · exact .inr ⟨n, c, deadline, step_lineup lineup v⟩
  rcases h with dormant | ⟨n, c, deadline, lineup⟩
  · exact dormant
  · rw [lineup.started] at unstarted
    cases unstarted

theorem Dormant.starts (h : Dormant r) {x : Stimulus} (hn : n ≠ 0) (hc : c ≠ 0) (hx : x.Starts r.now r.manager n c) :
    Rising n c (r.now + r.manager.startupTimeout) (r.step (.happen x)) := by
  obtain ⟨lineup, tasks, farewells, acts⟩ := h.blank.starts hn hc hx
  have quiet : (r.step (.happen x)).acts = r.acts := by simp [step, acts]
  refine ⟨⟨lineup, ?_, ?_⟩, ?_, ?_, ?_⟩
  · exact fun f hf => h.vacant.farewells f (farewells ▸ hf)
  · simp [step, tasks]
  · exact fun time id a mem => absurd (quiet ▸ mem) (h.silent time id a)
  · simp [step, tasks]
  · simp [step, tasks]

end Chronicle

end Shardwire
