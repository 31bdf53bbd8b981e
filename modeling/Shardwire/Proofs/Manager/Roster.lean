import Shardwire.Proofs.Buckets
import Shardwire.Proofs.Manager.Outcome
import Shardwire.Proofs.Shard.Identify

/-
Who identifies through which bucket.

A start spreads its shards over buckets by the remainder of their ids (`Buckets.partition_remainder`), and every shard
stays with the bucket whose lane spawned it. `Roster` is what holds of a manager from its start until it is asked to
stop; `step_roster` shows that every step keeps it. No such step clears the limiter, and a shard sends an Identify only
when it was granted a permit: see `step_acts`.
-/

namespace Shardwire

namespace Manager

/-- a running manager whose shards identify through the buckets of their ids, and who was not asked to stop -/
structure Roster (maxConcurrency : UInt32) (m : Manager) : Prop where
  started : m.started = true
  tasks : ∀ t ∈ m.tasks, t.bucket = t.shard.id % maxConcurrency ∧ t.shard.HoldsCommands
  lanes : ∀ s ∈ m.startup, ∀ l ∈ s.lanes, ∀ id ∈ l.queue, id % maxConcurrency = l.bucket
  farewells : m.farewells = []

/-- a manager that was not started yet, nor asked to stop -/
structure Unstarted (m : Manager) : Prop where
  started : m.started = false
  tasks : m.tasks = []
  startup : m.startup = none
  farewells : m.farewells = []

/-- whether it may reach a manager that is not asked to stop -/
def Stimulus.isAllowed : Stimulus → Bool
  | .shutdown => false
  | .shard _ y => y.isAllowed
  | _ => true

/-- whether a permit is granted -/
def Stimulus.isGrant : Stimulus → Bool
  | .shard _ .granted => true
  | _ => false

theorem Stimulus.Brings.isAllowed {x : Stimulus} {id : UInt32} {y : Shard.Stimulus} (h : x.Brings id y)
    (hx : x.isAllowed = true) : y.isAllowed = true := by
  cases h with
  | shard => exact hx
  | submit _ _ command => exact command

theorem task?_mem {m : Manager} {id : UInt32} {t : Task} (h : m.task? id = some t) : t ∈ m.tasks ∧ t.shard.id = id :=
  ⟨List.mem_of_find?_eq_some h, by simpa using List.find?_some h⟩

theorem launch_eq (profile : ShardProfile) (address : ShardAddress) (now : Nat) :
    Shard.launch profile address now =
      ⟨{ Shard.fresh profile address now with
          status := .connecting
          phase := .dialling false (now + profile.identifyTimeout) },
        [.publish .connecting, .dial (endpoint profile.gatewayUrl)]⟩ := rfl

theorem takeLeave_eq {m : Manager} (h : m.farewells = []) (now : Nat) : takeLeave now m = ⟨m, []⟩ := by
  simp [takeLeave, h]

variable {c : UInt32} {m : Manager}

theorem Unstarted.roster (h : Unstarted m) {shards : UInt32} {set : Buckets}
    (hs : Buckets.partition shards c = .ok set) (profile : ShardProfile) (bot : Option BotClient) (deadline : Nat) :
    Roster c
      { m with
        bot := bot
        started := true
        startup := some
          { deadline := deadline, total := shards, profile := profile, lanes := set.buckets.map Lane.ofBucket } } where
  started := rfl
  tasks := by simp [h.tasks]
  lanes := by
    intro s hs' l hl id hid
    cases hs'
    obtain ⟨b, hb, rfl⟩ := List.mem_map.1 hl
    exact Buckets.partition_remainder hs b hb id hid
  farewells := h.farewells

/-- A manager that was not started yet does nothing but answer, until it is. -/
theorem step_unstarted (now : Nat) (h : Unstarted m) {x : Stimulus} (hx : x.isAllowed = true) :
    (Unstarted (m.step now x).manager ∨ ∃ c, Roster c (m.step now x).manager) ∧
      ∀ a ∈ (m.step now x).acts, a.isReply = true := by
  have ho := step_outcome now x m
  generalize m.step now x = t at ho ⊢
  cases ho with
  | rests bot replies => exact ⟨.inl ⟨h.started, h.tasks, h.startup, h.farewells⟩, replies⟩
  | starts bot unstarted spread => exact ⟨.inr ⟨_, h.roster spread _ bot _⟩, by simp⟩
  | spawns startup | closes startup | ends startup | strays startup => rw [h.startup] at startup; cases startup
  | steps brings found =>
    have mem := (task?_mem found).1
    rw [h.tasks] at mem
    cases mem
  | leaves => cases hx
  | parts => rw [takeLeave_eq h.farewells]; exact ⟨.inl h, by simp⟩

/-- A start of a manager that was not started yet is accepted. -/
theorem Unstarted.starts (h : Unstarted m) {x : Stimulus} {shards : UInt32} {now : Nat} (hs : shards ≠ 0) (hc : c ≠ 0)
    (hx : x.Starts now m shards c) : Roster c (m.step now x).manager ∧ (m.step now x).acts = [] := by
  obtain ⟨set, spread⟩ := Buckets.partition_ok hs hc
  obtain ⟨profile, bot, eq⟩ := hx.step_eq
  have first : Manager.started { m with bot := bot } = false := h.started
  rw [eq, start_eq first spread]
  exact ⟨h.roster spread profile bot _, rfl⟩

theorem Roster.spawned (h : Roster c m) {s : Startup} {l : Lane} {id : UInt32} {rest : List UInt32}
    (startup : m.startup = some s) (lane : l ∈ s.lanes) (next : l.queue = id :: rest) {t : Task}
    (bucket : t.bucket = l.bucket) (shard : t.shard.id = id) (mailbox : t.shard.mailbox = []) :
    Roster c
      { m with
        tasks := m.tasks ++ [t]
        startup := some
          { s with lanes := s.lanes.map fun k => if k.bucket = l.bucket then l.spawn id rest else k } } where
  started := h.started
  tasks := by
    intro k hk
    rcases List.mem_append.1 hk with hk | hk
    · exact h.tasks k hk
    · rw [List.mem_singleton.1 hk]
      have own := h.lanes s startup l lane id (by rw [next]; exact List.mem_cons_self)
      exact ⟨by rw [bucket, shard, own], by simp [Shard.HoldsCommands, mailbox]⟩
  lanes := by
    intro s' hs' k hk i hi
    cases hs'
    obtain ⟨k', hk', rfl⟩ := List.mem_map.1 hk
    by_cases hb : k'.bucket = l.bucket
    · simp only [hb, if_true, Lane.spawn] at hi ⊢
      exact h.lanes s startup l lane i (by rw [next]; exact List.mem_cons_of_mem id hi)
    · simp only [hb, if_false] at hi ⊢
      exact h.lanes s startup k' hk' i hi
  farewells := h.farewells

theorem Roster.updated (h : Roster c m) {id : UInt32} {s : Shard} (hid : s.id = id) (hs : s.HoldsCommands) :
    Roster c (m.update id s) where
  started := h.started
  tasks := by
    intro t ht
    obtain ⟨k, hk, rfl⟩ := List.mem_map.1 ht
    by_cases hi : k.shard.id = id
    · simp only [hi, if_true]
      exact ⟨by rw [(h.tasks k hk).1, hi, hid], hs⟩
    · simp only [hi, if_false]
      exact h.tasks k hk
  lanes := h.lanes
  farewells := h.farewells

/-- Until it is asked to stop, a step leaves every shard with its bucket. -/
theorem step_roster (now : Nat) (h : Roster c m) {x : Stimulus} (hx : x.isAllowed = true) :
    Roster c (m.step now x).manager := by
  have ho := step_outcome now x m
  generalize m.step now x = t at ho ⊢
  cases ho with
  | rests bot replies => exact ⟨h.started, h.tasks, h.lanes, h.farewells⟩
  | starts bot unstarted spread => rw [h.started] at unstarted; cases unstarted
  | spawns startup lane free next made =>
    exact h.spawned startup lane next rfl (by rw [launch_eq]; exact (ShardAddress.make_eq_ok.1 made).1) (by rw [launch_eq]; rfl)
  | closes startup lane free through others =>
    refine ⟨h.started, h.tasks, fun s hs l hl => ?_, h.farewells⟩
    cases hs
    exact h.lanes _ startup l (List.mem_filter.1 hl).1
  | ends | strays => exact ⟨h.started, h.tasks, by simp, h.farewells⟩
  | @steps _ id y task brings found =>
    obtain ⟨mem, own⟩ := task?_mem found
    exact h.updated ((Shard.step_id now y task.shard).trans own)
      (Shard.step_holdsCommands (brings.isAllowed hx) now (h.tasks task mem).2)
  | leaves => cases hx
  | parts => rw [takeLeave_eq h.farewells]; exact h

/-- whether a shard sends an Identify -/
def Act.identifies : Act → Bool
  | .shard _ a => a.identifies
  | _ => false

/-- whether the limiter is cleared -/
def Act.isClear : Act → Bool
  | .clear => true
  | _ => false

theorem identifies_of_isReply {a : Act} (h : a.isReply = true) : a.identifies = false := by
  cases a <;> first | rfl | cases h

theorem isClear_of_isReply {a : Act} (h : a.isReply = true) : a.isClear = false := by
  cases a <;> first | rfl | cases h

/-- Until it is asked to stop, nobody clears the limiter, and an Identify goes out on a permit of the same shard only,
and alone. -/
theorem step_acts (now : Nat) (h : Roster c m) {x : Stimulus} (hx : x.isAllowed = true) :
    (∀ a ∈ (m.step now x).acts, a.isClear = false) ∧
      ((∀ a ∈ (m.step now x).acts, a.identifies = false) ∨
        ∃ id p, x = .shard id .granted ∧ (m.step now x).acts = [.shard id (.write (.identify p))]) := by
  have ho := step_outcome now x m
  generalize m.step now x = t at ho ⊢
  cases ho with
  | rests bot replies =>
    exact ⟨fun a ha => isClear_of_isReply (replies a ha), .inl fun a ha => identifies_of_isReply (replies a ha)⟩
  | starts | closes => exact ⟨by simp, .inl (by simp)⟩
  | spawns startup lane free next made =>
    rw [launch_eq]
    simp [Act.isClear, Act.identifies, Shard.Act.identifies]
  | ends | strays => simp [Act.isClear, Act.identifies]
  | @steps _ id y task brings found =>
    have quiet : ∀ a ∈ (task.shard.step now y).acts.map (Act.shard id), a.isClear = false := by
      intro a ha
      obtain ⟨b, -, rfl⟩ := List.mem_map.1 ha
      rfl
    refine ⟨quiet, ?_⟩
    rcases Shard.step_identifies now y (h.tasks task (task?_mem found).1).2 with none | ⟨rfl, one⟩
    · refine .inl fun a ha => ?_
      obtain ⟨b, hb, rfl⟩ := List.mem_map.1 ha
      exact none b hb
    · cases brings
      exact .inr ⟨id, task.shard.identity, rfl, by rw [one]; rfl⟩
  | leaves => cases hx
  | parts => rw [takeLeave_eq h.farewells]; exact ⟨by simp, .inl (by simp)⟩

end Manager

end Shardwire
