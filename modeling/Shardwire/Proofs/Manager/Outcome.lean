import Shardwire.Manager

/-
What one step of a manager can do to it.

`Outcome` lists the ways a step can go: the manager rests, starts, spawns a shard, closes a lane, ends a start, hands a
stimulus on to one of its shards, or goes on with a shutdown. `step_outcome`: there are no others. A connect that is not
refused is a start: see `connect_cases`.
-/

namespace Shardwire.Manager

/-- whether it answers whoever called the manager -/
def Act.isReply : Act → Bool
  | .answer _ _ | .started _ => true
  | _ => false

/-- whether a stimulus asks for a start of so many shards, of which so many may identify at a time -/
inductive Stimulus.Starts (now : Nat) (m : Manager) : Stimulus → UInt32 → UInt32 → Prop where
  | start (shards maxConcurrency : UInt32) : Starts now m (.start shards maxConcurrency) shards maxConcurrency
  /-- what is asked for comes from the bot endpoint -/
  | connect {answer : HttpAnswer} {profile : ShardProfile} {shards maxConcurrency : UInt32} {bot : Option BotClient}
      (eq : Manager.connect answer now m = Manager.start profile shards maxConcurrency now { m with bot := bot }) :
      Starts now m (.connect answer) shards maxConcurrency

/-- whether a stimulus of the manager is one of a shard; callers have only commands sent -/
inductive Stimulus.Brings : Stimulus → UInt32 → Shard.Stimulus → Prop where
  | shard (id : UInt32) (y : Shard.Stimulus) : Brings (.shard id y) id y
  | submit (id : UInt32) (ticket : Nat) {msg : Message} (command : msg.op.isCommand = true) :
      Brings (.submit id ticket msg) id (.submit ticket msg)

/-- the lanes of a start over buckets -/
def Lane.ofBucket (b : Bucket) : Lane := ⟨b.id, none, b.shards⟩

/-- a lane that spawns the next of its shards -/
def Lane.spawn (l : Lane) (id : UInt32) (rest : List UInt32) : Lane := { l with current := some id, queue := rest }

/-- a shard takes the place of the one it was -/
def update (m : Manager) (id : UInt32) (s : Shard) : Manager :=
  { m with tasks := m.tasks.map fun k => if k.shard.id = id then { k with shard := s } else k }

/-- what an act of a manager does to the limiter -/
def touch (now : Nat) (m : Manager) (l : Limiter UInt32) : Act → Limiter UInt32
  | .shard id .enqueue =>
    match m.task? id with
    | some t => l.request t.bucket id now
    | none => l
  | .shard id .withdraw => l.withdraw id
  | .clear => l.clear
  | _ => l

theorem touch_enqueue {m : Manager} {id : UInt32} {t : Task} (found : m.task? id = some t) (now : Nat)
    (l : Limiter UInt32) : touch now m l (.shard id .enqueue) = l.request t.bucket id now := by
  simp [touch, found]

theorem touch_unknown {m : Manager} {id : UInt32} (unknown : m.task? id = none) (now : Nat) (l : Limiter UInt32) :
    touch now m l (.shard id .enqueue) = l := by
  simp [touch, unknown]

/-- the ways a step can go -/
inductive Outcome (now : Nat) (m : Manager) : Stimulus → Turn → Prop where
  /-- at most it keeps what the bot endpoint said, and answers -/
  | rests {x : Stimulus} {acts : List Act} (bot : Option BotClient) (replies : ∀ a ∈ acts, a.isReply = true) :
      Outcome now m x ⟨{ m with bot := bot }, acts⟩
  | starts {x : Stimulus} {profile : ShardProfile} {shards maxConcurrency : UInt32} {set : Buckets}
      (bot : Option BotClient) (unstarted : m.started = false)
      (spread : Buckets.partition shards maxConcurrency = .ok set) :
      Outcome now m x
        ⟨{ m with
            bot := bot
            started := true
            startup := some
              { deadline := now + m.startupTimeout
                total := shards
                profile := profile
                lanes := set.buckets.map Lane.ofBucket } }, []⟩
  | spawns {s : Startup} {l : Lane} {id : UInt32} {rest : List UInt32} {address : ShardAddress}
      (startup : m.startup = some s) (lane : l ∈ s.lanes) (free : m.mayAdvance s l now = true)
      (next : l.queue = id :: rest) (made : ShardAddress.make id s.total = .ok address) :
      Outcome now m (.lane l.bucket)
        ⟨{ m with
            tasks := m.tasks ++
              [{ bucket := l.bucket, shard := (Shard.launch s.profile address now).shard, listed := true }]
            startup := some
              { s with lanes := s.lanes.map fun k => if k.bucket = l.bucket then l.spawn id rest else k } },
          (Shard.launch s.profile address now).acts.map (.shard id)⟩
  /-- a lane is through, and others are not -/
  | closes {s : Startup} {l : Lane} (startup : m.startup = some s) (lane : l ∈ s.lanes)
      (free : m.mayAdvance s l now = true) (through : l.queue = [])
      (others : (s.lanes.filter fun k => k.bucket ≠ l.bucket) ≠ []) :
      Outcome now m (.lane l.bucket)
        ⟨{ m with startup := some { s with lanes := s.lanes.filter fun k => k.bucket ≠ l.bucket } }, []⟩
  /-- the last lane is through -/
  | ends {s : Startup} {l : Lane} (startup : m.startup = some s) (lane : l ∈ s.lanes)
      (free : m.mayAdvance s l now = true) (through : l.queue = []) (last : ∀ k ∈ s.lanes, k.bucket = l.bucket) :
      Outcome now m (.lane l.bucket) ⟨{ m with startup := none }, [.started m.verdict]⟩
  /-- the next shard has no address -/
  | strays {s : Startup} {l : Lane} {id : UInt32} {rest : List UInt32} {f : ShardAddress.Fault}
      (startup : m.startup = some s) (lane : l ∈ s.lanes) (next : l.queue = id :: rest)
      (unmade : ShardAddress.make id s.total = .error f) :
      Outcome now m (.lane l.bucket) ⟨{ m with startup := none }, [.started (some (.shardAddress f))]⟩
  | steps {x : Stimulus} {id : UInt32} {y : Shard.Stimulus} {task : Task} (brings : x.Brings id y)
      (found : m.task? id = some task) :
      Outcome now m x ⟨m.update id (task.shard.step now y).shard, (task.shard.step now y).acts.map (.shard id)⟩
  | leaves : Outcome now m .shutdown (shutdown now m)
  | parts : Outcome now m .farewell (takeLeave now m)

theorem replies_rests {now : Nat} {m : Manager} {x : Stimulus} {acts : List Act} (h : ∀ a ∈ acts, a.isReply = true) :
    Outcome now m x ⟨m, acts⟩ :=
  .rests m.bot h

theorem still_rests {now : Nat} {m : Manager} {x : Stimulus} : Outcome now m x ⟨m, []⟩ := replies_rests (by simp)

/-! ## Starting -/

theorem refuse_outcome {now : Nat} {m : Manager} (x : Stimulus) (f : Fault) (bot : Option BotClient) :
    Outcome now m x (refuse f { m with bot := bot }) :=
  .rests bot (by simp [Act.isReply])

theorem start_outcome {now : Nat} {m : Manager} (x : Stimulus) (profile : ShardProfile) (shards maxConcurrency : UInt32)
    (bot : Option BotClient) : Outcome now m x (start profile shards maxConcurrency now { m with bot := bot }) := by
  unfold start
  split
  · exact refuse_outcome x _ bot
  · next set hs =>
    split
    · exact refuse_outcome x _ bot
    · next hm => exact .starts bot (Bool.eq_false_iff.2 hm) hs

/-- A start over buckets that is not the second one is accepted. -/
theorem start_eq {m : Manager} (hm : m.started = false) {shards maxConcurrency : UInt32} {set : Buckets}
    (hs : Buckets.partition shards maxConcurrency = .ok set) (profile : ShardProfile) (now : Nat) :
    start profile shards maxConcurrency now m =
      ⟨{ m with
          started := true
          startup := some
            { deadline := now + m.startupTimeout
              total := shards
              profile := profile
              lanes := set.buckets.map Lane.ofBucket } }, []⟩ := by
  simp [start, hs, hm, Lane.ofBucket]

theorem Stimulus.Starts.step_eq {now : Nat} {m : Manager} {x : Stimulus} {shards maxConcurrency : UInt32}
    (h : x.Starts now m shards maxConcurrency) :
    ∃ profile bot, m.step now x = Manager.start profile shards maxConcurrency now { m with bot := bot } := by
  cases h with
  | start => exact ⟨m.profile, m.bot, rfl⟩
  | connect eq => exact ⟨_, _, eq⟩

/-- Connecting is refused, or it is a start. -/
theorem connect_cases (answer : HttpAnswer) (now : Nat) (m : Manager) :
    (∃ f bot, connect answer now m = refuse f { m with bot := bot }) ∨
      ∃ profile shards maxConcurrency bot,
        connect answer now m = start profile shards maxConcurrency now { m with bot := bot } := by
  simp only [connect]
  split
  · split
    · next shards _ => exact .inr ⟨m.profile, shards, m.maxConcurrency, m.bot, rfl⟩
    · exact .inl ⟨_, m.bot, rfl⟩
  · next bot _ =>
    split
    · exact .inl ⟨_, _, rfl⟩
    · next info _ =>
      -- first by how many shards are configured, then by whether the budget has room for them
      split <;> split
      · exact .inr ⟨_, max info.shards 1, max info.limit.maxConcurrency 1, _, rfl⟩
      · exact .inl ⟨_, _, rfl⟩
      · next n _ _ => exact .inr ⟨_, n, max info.limit.maxConcurrency 1, _, rfl⟩
      · exact .inl ⟨_, _, rfl⟩

/-! ## Lanes -/

theorem advance_outcome {now : Nat} {m : Manager} {s : Startup} {l : Lane} (startup : m.startup = some s)
    (lane : l ∈ s.lanes) (free : m.mayAdvance s l now = true) :
    Outcome now m (.lane l.bucket) (advance s l now m) := by
  unfold advance
  split
  · next id rest hq =>
    split
    · next address ha => exact .spawns startup lane free hq ha
    · next f hf => exact .strays startup lane hq hf
  · next hq =>
    split
    · next none =>
      refine .ends startup lane free hq fun k hk => ?_
      simpa using List.filter_eq_nil_iff.1 none k hk
    · next others => exact .closes startup lane free hq others

theorem look_outcome (now : Nat) (m : Manager) (bucket : UInt32) :
    Outcome now m (.lane bucket) (look bucket now m) := by
  unfold look
  split
  · exact still_rests
  · next s hs =>
    split
    · exact still_rests
    · next l hl =>
      have hb : l.bucket = bucket := by simpa using List.find?_some hl
      split
      · next free => exact hb ▸ advance_outcome hs (List.mem_of_find?_eq_some hl) free
      · exact still_rests

/-! ## Shards -/

theorem stepShard_eq {m : Manager} {id : UInt32} {t : Task} (found : m.task? id = some t) (y : Shard.Stimulus)
    (now : Nat) : stepShard id y now m =
      ⟨m.update id (t.shard.step now y).shard, (t.shard.step now y).acts.map (.shard id)⟩ := by
  simp [stepShard, found, update]

theorem stepShard_none {m : Manager} {id : UInt32} (none : m.task? id = none) (y : Shard.Stimulus) (now : Nat) :
    stepShard id y now m = ⟨m, []⟩ := by
  simp [stepShard, none]

theorem stepShard_outcome {now : Nat} {m : Manager} {x : Stimulus} {id : UInt32} {y : Shard.Stimulus}
    (h : x.Brings id y) : Outcome now m x (stepShard id y now m) := by
  unfold stepShard
  split
  · exact still_rests
  · next task ht => exact .steps h ht

theorem submit_outcome (now : Nat) (m : Manager) (id : UInt32) (ticket : Nat) (msg : Message) :
    Outcome now m (.submit id ticket msg) (submit id ticket msg now m) := by
  unfold submit
  split
  · exact replies_rests (by simp [Act.isReply])
  · next hc =>
    split
    · exact replies_rests (by simp [Act.isReply])
    · exact stepShard_outcome (.submit id ticket (by simpa using hc))

/-- There are no other ways. -/
theorem step_outcome (now : Nat) (x : Stimulus) (m : Manager) : Outcome now m x (m.step now x) := by
  cases x with
  | start shards maxConcurrency => exact start_outcome _ m.profile shards maxConcurrency m.bot
  | connect answer =>
    simp only [step]
    rcases connect_cases answer now m with ⟨f, bot, h⟩ | ⟨profile, shards, maxConcurrency, bot, h⟩
    · exact h ▸ refuse_outcome _ f bot
    · exact h ▸ start_outcome _ profile shards maxConcurrency bot
  | submit id ticket msg => exact submit_outcome now m id ticket msg
  | shutdown => exact .leaves
  | shard id y => exact stepShard_outcome (.shard id y)
  | lane bucket => exact look_outcome now m bucket
  | farewell => exact .parts

end Shardwire.Manager
