import Shardwire.Manager.Clock
import Shardwire.Proofs.Manager.Lineup
import Shardwire.Proofs.Shard.Clock

/-
What a step of a manager can do on a clock that ends.

`ClockedOutcome`: it is the step that it is on a clock without an end; or a start breaks off, or a shard does, as it is
spawned or later on. `stepClocked_outcome`: there are no other ways. So the lineup of shards is kept
(`stepClocked_lineup`), and starts go on and end as they do on any clock (`stepClocked_startup`, `Lineup.endsClocked`),
but for those that break off.
-/

namespace Shardwire

namespace Shard

/-- A shard asks for its first connection, or breaks off before it does. -/
theorem launchClocked_cases (profile : ShardProfile) (address : ShardAddress) (now : Nat) :
    launchClocked profile address now = launch profile address now ∨
      (fresh profile address now).outlasts now = true ∧
        launchClocked profile address now = ⟨{ fresh profile address now with phase := .ended }, []⟩ := by
  have due : (fresh profile address now).step now .timeout = launch profile address now := by
    simp [step, expire, fresh, launch]
  rcases clocked_cases now .timeout (fresh profile address now) with
    ⟨-, eq⟩ | ⟨beyond, -, -, -, -, -, eq⟩ | ⟨-, online, -⟩
  · exact .inl (eq.trans due)
  · exact .inr ⟨beyond, eq⟩
  · cases online

end Shard

namespace Manager

variable {n c : UInt32} {deadline now : Nat} {m : Manager}

/-- the ways a step can go on a clock that ends -/
inductive ClockedOutcome (now : Nat) (m : Manager) : Stimulus → Turn → Prop where
  | keeps (x : Stimulus) : ClockedOutcome now m x (m.step now x)
  /-- a start would outlast the clock -/
  | breaksOff {x : Stimulus} (bot : Option BotClient) (unstarted : m.started = false) (beyond : m.outlasts now = true) :
      ClockedOutcome now m x ⟨{ m with bot := bot, started := true, startup := none }, []⟩
  /-- a shard is spawned, and breaks off -/
  | miscarries {s : Startup} {l : Lane} {id : UInt32} {rest : List UInt32} {address : ShardAddress}
      (startup : m.startup = some s) (lane : l ∈ s.lanes) (free : m.mayAdvance s l now = true)
      (next : l.queue = id :: rest) (made : ShardAddress.make id s.total = .ok address)
      (beyond : (Shard.fresh s.profile address now).outlasts now = true) :
      ClockedOutcome now m (.lane l.bucket)
        ⟨{ m with
            tasks := m.tasks ++ [
              { bucket := l.bucket
                shard := { Shard.fresh s.profile address now with phase := .ended }
                listed := true }]
            startup := some
              { s with lanes := s.lanes.map fun k => if k.bucket = l.bucket then l.spawn id rest else k } }, []⟩
  /-- a shard breaks off before it asks for a connection -/
  | forgoes {id : UInt32} {y : Shard.Stimulus} {task : Task} (found : m.task? id = some task)
      (beyond : task.shard.outlasts now = true) : ClockedOutcome now m (.shard id y) (stepShard id .abort now m)
  /-- a shard breaks off once it has written its part of a handshake -/
  | quits {id : UInt32} {y : Shard.Stimulus} {task : Task} (found : m.task? id = some task)
      (beyond : task.shard.outlasts now = true) :
      ClockedOutcome now m (.shard id y) ((stepShard id y now m).next (stepShard id .abort now))

/-! ## There are no other ways -/

theorem startClocked_outcome (now : Nat) (m : Manager) (x : Stimulus) (hx : ∀ id y, ¬ x.Brings id y)
    (other : x ≠ .shutdown ∧ x ≠ .farewell) :
    ClockedOutcome now m x (startClocked now m (m.step now x)) := by
  unfold startClocked
  split
  · next accepted =>
    simp only [Bool.and_eq_true, Bool.not_eq_true'] at accepted
    obtain ⟨⟨unstarted, started⟩, beyond⟩ := accepted
    have ho := step_outcome now x m
    generalize m.step now x = t at ho started ⊢
    cases ho with
    | starts bot => exact .breaksOff bot unstarted beyond
    | steps brings => exact (hx _ _ brings).elim
    | leaves => exact absurd rfl other.1
    | parts => exact absurd rfl other.2
    | rests | spawns | closes | ends | strays => cases unstarted.symm.trans started
  · exact .keeps x

theorem spawnClocked_outcome (now : Nat) (m : Manager) (bucket : UInt32) :
    ClockedOutcome now m (.lane bucket) (spawnClocked now m (m.step now (.lane bucket))) := by
  have plain {t : Turn} (ht : m.step now (.lane bucket) = t) (same : t.manager.tasks = m.tasks) :
      ClockedOutcome now m (.lane bucket) (spawnClocked now m t) := by
    have idle : spawnClocked now m t = t := by simp [spawnClocked, same]
    rw [idle, ← ht]
    exact .keeps _
  have ho := step_outcome now (.lane bucket) m
  generalize ht : m.step now (.lane bucket) = t at ho ⊢
  cases ho with
  | rests | starts | closes | ends | strays => exact plain ht rfl
  | steps brings => cases brings
  | @spawns s l id rest address startup lane free next made =>
    obtain rfl : address.id = id := (ShardAddress.make_eq_ok.1 made).1
    simp only [spawnClocked, List.drop_left, launch_eq, Shard.fresh]
    rcases Shard.launchClocked_cases s.profile address now with eq | ⟨beyond, eq⟩
    · rw [eq, launch_eq]
      have same : ClockedOutcome now m (.lane l.bucket) (m.step now (.lane l.bucket)) := .keeps _
      rw [ht] at same
      exact same
    · rw [eq]
      exact .miscarries startup lane free next made beyond

theorem stepShardClocked_outcome (now : Nat) (m : Manager) (id : UInt32) (y : Shard.Stimulus) :
    ClockedOutcome now m (.shard id y) (stepShardClocked id y now m) := by
  have plain : ClockedOutcome now m (.shard id y) (stepShard id y now m) := .keeps (.shard id y)
  unfold stepShardClocked
  split
  · next unknown =>
    rw [stepShard_none unknown] at plain
    exact plain
  · next task found =>
    rcases Shard.clocked_cases now y task.shard with ⟨eq, -⟩ | ⟨beyond, -, -, -, -, eq, -⟩ | ⟨beyond, -, -, eq, -⟩
    all_goals rw [eq]
    · simpa [Turn.next] using plain
    · simpa [Turn.next] using ClockedOutcome.forgoes (y := y) found beyond
    · simpa [Turn.next] using ClockedOutcome.quits (y := y) found beyond

/-- There are no other ways. -/
theorem stepClocked_outcome (now : Nat) (x : Stimulus) (m : Manager) :
    ClockedOutcome now m x (m.stepClocked now x) := by
  cases x with
  | start | connect => exact startClocked_outcome now m _ nofun ⟨nofun, nofun⟩
  | lane bucket => exact spawnClocked_outcome now m bucket
  | shard id y => exact stepShardClocked_outcome now m id y
  | submit | shutdown | farewell => exact .keeps _

/-! ## The lineup on a clock that ends -/

theorem stepShards_twice (distinct : m.spawned.Nodup) (id : UInt32) (y : Shard.Stimulus) (now : Nat) :
    Alike m ((stepShard id y now m).next (stepShard id .abort now)).manager := by
  have first := stepShard_alike distinct id y now
  exact first.trans (stepShard_alike (first.spawned ▸ distinct) id .abort now)

/-- Every step keeps the lineup. -/
theorem stepClocked_lineup (now : Nat) (x : Stimulus) (h : Lineup n c deadline m) :
    Lineup n c deadline (m.stepClocked now x).manager := by
  have ho := stepClocked_outcome now x m
  generalize m.stepClocked now x = t at ho ⊢
  cases ho with
  | keeps => exact step_lineup now x h
  | breaksOff bot unstarted => cases h.started.symm.trans unstarted
  | miscarries startup lane free next made =>
    refine h.spawns startup lane next rfl rfl ?_
    rw [spawned_append]
    exact congrArg (m.spawned ++ [·]) (ShardAddress.make_eq_ok.1 made).1
  | forgoes found => exact (stepShard_alike h.distinct _ _ now).lineup h
  | quits found => exact (stepShards_twice h.distinct _ _ now).lineup h

/-- A step spawns at most one shard: the next of a lane that need not wait. -/
theorem stepClocked_spawned (now : Nat) (x : Stimulus) (h : Lineup n c deadline m) :
    (m.stepClocked now x).manager.spawned = m.spawned ∨ ∃ s l id rest, m.startup = some s ∧ l ∈ s.lanes ∧
      m.mayAdvance s l now = true ∧ l.queue = id :: rest ∧
      (m.stepClocked now x).manager.spawned = m.spawned ++ [id] := by
  have ho := stepClocked_outcome now x m
  generalize m.stepClocked now x = t at ho ⊢
  cases ho with
  | keeps => exact step_spawned now x h
  | breaksOff => exact .inl rfl
  | miscarries startup lane free next made =>
    refine .inr ⟨_, _, _, _, startup, lane, free, next, ?_⟩
    rw [spawned_append]
    exact congrArg (m.spawned ++ [·]) (ShardAddress.make_eq_ok.1 made).1
  | forgoes found => exact .inl (stepShard_alike h.distinct _ _ now).spawned
  | quits found => exact .inl (stepShards_twice h.distinct _ _ now).spawned

/-- Its lanes go on as on a clock without an end. -/
theorem stepClocked_startup (now : Nat) (x : Stimulus) (h : Lineup n c deadline m) :
    (m.stepClocked now x).manager.startup = (m.step now x).manager.startup := by
  have ho := stepClocked_outcome now x m
  generalize m.stepClocked now x = t at ho ⊢
  cases ho with
  | keeps => rfl
  | breaksOff bot unstarted => cases h.started.symm.trans unstarted
  | miscarries startup lane free next made =>
    rw [step, h.look_free startup lane free, advance]
    simp [next, made, Lane.spawn]
  | forgoes found =>
    exact (stepShard_alike h.distinct _ _ now).startup.trans (stepShard_alike h.distinct _ _ now).startup.symm
  | quits found =>
    exact (stepShards_twice h.distinct _ _ now).startup.trans (stepShard_alike h.distinct _ _ now).startup.symm

/-- A start is over when the last lane is through. -/
theorem Lineup.endsClocked (h : Lineup n c deadline m) {now : Nat} {x : Stimulus} (before : m.startup ≠ none)
    (after : (m.stepClocked now x).manager.startup = none) :
    m.stepClocked now x = ⟨{ m with startup := none }, [.started m.verdict]⟩ := by
  have ends := stepClocked_startup now x h ▸ after
  obtain ⟨s, l, -, -, -, eq⟩ := h.ends before ends
  have ho := stepClocked_outcome now x m
  generalize m.stepClocked now x = t at ho after ⊢
  cases ho with
  | keeps => exact eq
  | breaksOff bot unstarted => cases h.started.symm.trans unstarted
  | miscarries => cases after
  | forgoes found => exact absurd ((stepShard_alike h.distinct _ _ now).startup.symm.trans after) before
  | quits found => exact absurd ((stepShards_twice h.distinct _ _ now).startup.symm.trans after) before

end Manager

end Shardwire
