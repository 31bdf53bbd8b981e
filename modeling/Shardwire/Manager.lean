import Shardwire.BotClient
import Shardwire.Buckets
import Shardwire.Diagnostics
import Shardwire.Shard.Step

/-
The manager: starts the shards of one bot, looks after them, and stops them.

A start spreads the shards over buckets and gives each bucket a lane. A lane spawns its shards one after another in
ascending order, each once the one before has come up or failed, or once the start has run out of time; lanes do not
wait for each other. When the last lane is through, the start succeeds if every shard in the registry is ready.

A shutdown empties the registry and asks every shard in it to stop; it is over when they have. Whoever runs the manager
feeds it stimuli and carries out its acts: it opens connections, keeps the limiter that shards call on, and answers
callers. Times are in milliseconds.
-/

namespace Shardwire

/-- a shard that was spawned -/
structure Manager.Task where
  bucket : UInt32
  shard : Shard
  /-- whether it is in the registry -/
  listed : Bool

/-- the shards of one bucket on their way up -/
structure Manager.Lane where
  bucket : UInt32
  /-- the shard it waits for -/
  current : Option UInt32
  /-- shards to be spawned after it -/
  queue : List UInt32
  deriving DecidableEq, Repr

/-- a start under way -/
structure Manager.Startup where
  deadline : Nat
  total : UInt32
  profile : ShardProfile
  lanes : List Manager.Lane

/-- a shutdown under way -/
structure Manager.Farewell where
  shards : List UInt32
  /-- when shards that are left are stopped by force -/
  deadline : Nat
  deriving DecidableEq, Repr

structure Manager where
  profile : ShardProfile
  sharding : ShardCount
  maxConcurrency : UInt32
  startupTimeout : Nat
  /-- whether no other manager uses its limiter -/
  ownsLimiter : Bool
  bot : Option BotClient
  /-- whether it was ever started -/
  started : Bool
  /-- in the order they were spawned in -/
  tasks : List Manager.Task
  startup : Option Manager.Startup
  farewells : List Manager.Farewell

namespace Manager

inductive Stimulus where
  | start (shards maxConcurrency : UInt32)
  /-- a start with the configured sharding; the answer is what the bot endpoint would say -/
  | connect (answer : HttpAnswer)
  | submit (shard : UInt32) (ticket : Nat) (m : Message)
  | shutdown
  /-- something happens to a shard -/
  | shard (id : UInt32) (x : Shard.Stimulus)
  /-- the lane of a bucket looks at its shard -/
  | lane (bucket : UInt32)
  /-- the first shutdown looks at its shards -/
  | farewell

inductive Act where
  /-- an act of a shard -/
  | shard (id : UInt32) (a : Shard.Act)
  /-- answers a caller that no shard has answered -/
  | answer (ticket : Nat) (fault : Fault)
  /-- a start is over -/
  | started (fault : Option Fault)
  /-- the limiter is cleared -/
  | clear
  /-- a shutdown is over -/
  | stopped

/-- a manager and what it did -/
structure Turn where
  manager : Manager
  acts : List Act

def Turn.next (t : Turn) (f : Manager → Turn) : Turn := ⟨(f t.manager).manager, t.acts ++ (f t.manager).acts⟩

/-- time for all shards of a start -/
def defaultStartupTimeout : Nat := 300000

/-- time for a shard to stop -/
def grace : Nat := 5000

/-- a manager of one shard that asks no endpoint -/
def new (profile : ShardProfile) : Manager where
  profile := profile
  sharding := .fixed 1
  maxConcurrency := 1
  startupTimeout := defaultStartupTimeout
  ownsLimiter := true
  bot := none
  started := false
  tasks := []
  startup := none
  farewells := []

def ofSettings (s : Settings) : Manager :=
  { new (.ofSettings s) with
    sharding := s.bot.shardCount
    maxConcurrency := s.bot.maxConcurrency
    startupTimeout := s.timeouts.startup.toNat * 1000
    bot := some (.new s.bot.apiBase s.bot.token) }

/-! ## Registry -/

/-- the shard of an id, in the registry or on its way out -/
def task? (m : Manager) (id : UInt32) : Option Task := m.tasks.find? fun t => t.shard.id == id

/-- the shard of an id, if it is in the registry -/
def shard? (m : Manager) (id : UInt32) : Option Shard :=
  (m.tasks.find? fun t => t.listed && t.shard.id == id).map (·.shard)

def listed (m : Manager) : List Shard := (m.tasks.filter (·.listed)).map (·.shard)

/-- ids in the registry, ascending -/
def ids (m : Manager) : List UInt32 := (m.listed.map (·.id)).mergeSort fun a b => a ≤ b

def count (m : Manager) : Nat := m.listed.length

def readyCount (m : Manager) : Nat := (m.listed.filter fun s => s.status.isReady).length

def status? (m : Manager) (id : UInt32) : Option Status := (m.shard? id).map (·.status)

/-- the manager as it stands in diagnostics -/
def describe (m : Manager) : String :=
  Text.openRecord "GatewayManager"
    [("config", m.profile.describe), ("shard_count", m.sharding.describe),
     ("max_concurrency", toString m.maxConcurrency.toNat),
     ("shards", Text.listed (m.ids.map fun i => toString i.toNat)), ("started", toString m.started)]

/-! ## Starting -/

/-- a start that is refused changes nothing -/
def refuse (f : Fault) (m : Manager) : Turn := ⟨m, [.started (some f)]⟩

def start (profile : ShardProfile) (shards maxConcurrency : UInt32) (now : Nat) (m : Manager) : Turn :=
  match Buckets.partition shards maxConcurrency with
  | .error f => refuse f m
  | .ok set =>
    if m.started then refuse .alreadyStarted m
    else
      ⟨{ m with
          started := true
          startup := some
            { deadline := now + m.startupTimeout
              total := shards
              profile := profile
              lanes := set.buckets.map fun b => ⟨b.id, none, b.shards⟩ } }, []⟩

def connect (answer : HttpAnswer) (now : Nat) (m : Manager) : Turn :=
  match m.bot with
  | none =>
    match m.sharding with
    | .fixed shards => start m.profile shards m.maxConcurrency now m
    | .auto => refuse (.invalidSharding .needsEndpoint) m
  | some bot =>
    let f := bot.fetch answer now
    let m := { m with bot := some f.client }
    match f.result with
    | .error fault => refuse fault m
    | .ok info =>
      let shards := match m.sharding with
        | .auto => max info.shards 1
        | .fixed n => n
      if info.limit.canStart shards then
        start { m.profile with gatewayUrl := info.url } shards (max info.limit.maxConcurrency 1) now m
      else refuse (.notEnoughSessions info.limit.remaining shards) m

/-- whether a lane need not wait for its shard any longer -/
def mayAdvance (m : Manager) (s : Startup) (l : Lane) (now : Nat) : Bool :=
  match l.current with
  | none => true
  | some id => s.deadline ≤ now || ((m.task? id).map fun t => t.shard.isSettled).getD true

/-- how a start ends: with the shards that are not ready, if there are any -/
def verdict (m : Manager) : Option Fault :=
  match m.ids.filter fun id => ((m.shard? id).map fun s => !s.status.isReady).getD false with
  | [] => none
  | failed => some (.startupFailed failed)

/-- a lane goes on to its next shard, or is through -/
def advance (s : Startup) (l : Lane) (now : Nat) (m : Manager) : Turn :=
  match l.queue with
  | id :: rest =>
    match ShardAddress.make id s.total with
    | .ok address =>
      let t := Shard.launch s.profile address now
      let lanes := s.lanes.map fun k => if k.bucket = l.bucket then { l with current := some id, queue := rest } else k
      ⟨{ m with
          tasks := m.tasks ++ [{ bucket := l.bucket, shard := t.shard, listed := true }]
          startup := some { s with lanes := lanes } }, t.acts.map (.shard id)⟩
    | .error f => ⟨{ m with startup := none }, [.started (some (.shardAddress f))]⟩
  | [] =>
    match s.lanes.filter fun k => k.bucket ≠ l.bucket with
    | [] => ⟨{ m with startup := none }, [.started m.verdict]⟩
    | lanes => ⟨{ m with startup := some { s with lanes := lanes } }, []⟩

/-- a lane looks at its shard -/
def look (bucket : UInt32) (now : Nat) (m : Manager) : Turn :=
  match m.startup with
  | none => ⟨m, []⟩
  | some s =>
    match s.lanes.find? fun l => l.bucket == bucket with
    | none => ⟨m, []⟩
    | some l => if m.mayAdvance s l now then advance s l now m else ⟨m, []⟩

/-- the lanes that need not wait -/
def lanesDue (m : Manager) (now : Nat) : List UInt32 :=
  match m.startup with
  | none => []
  | some s => (s.lanes.filter fun l => m.mayAdvance s l now).map (·.bucket)

/-! ## Shards -/

/-- something happens to a shard -/
def stepShard (id : UInt32) (x : Shard.Stimulus) (now : Nat) (m : Manager) : Turn :=
  match m.task? id with
  | none => ⟨m, []⟩
  | some task =>
    let t := task.shard.step now x
    ⟨{ m with tasks := m.tasks.map fun k => if k.shard.id = id then { k with shard := t.shard } else k },
      t.acts.map (.shard id)⟩

/-- a caller wants a message sent; handshakes and heartbeats belong to the shard -/
def submit (id : UInt32) (ticket : Nat) (msg : Message) (now : Nat) (m : Manager) : Turn :=
  if !msg.op.isCommand then ⟨m, [.answer ticket (.invalidCommand msg.op)]⟩
  else if (m.shard? id).isNone then ⟨m, [.answer ticket (.unknownShard id)]⟩
  else stepShard id (.submit ticket msg) now m

/-! ## Stopping -/

/-- takes every shard out of the registry and asks it to stop -/
def shutdown (now : Nat) (m : Manager) : Turn :=
  let leaving := m.ids
  let m := leaving.foldl (fun m id => (stepShard id .stop now m).manager) m
  ⟨{ m with
      tasks := m.tasks.map fun t => { t with listed := false }
      farewells := m.farewells ++ [⟨leaving, now + grace⟩] }, []⟩

/-- whether a shard has ended -/
def hasEnded (m : Manager) (id : UInt32) : Bool := ((m.task? id).map fun t => t.shard.isEnded).getD true

/-- the first shutdown is over once its shards have ended -/
def takeLeave (now : Nat) (m : Manager) : Turn :=
  match m.farewells with
  | [] => ⟨m, []⟩
  | f :: rest =>
    if f.shards.all m.hasEnded then
      ⟨{ m with farewells := rest }, if m.ownsLimiter then [.clear, .stopped] else [.stopped]⟩
    else if f.deadline ≤ now then
      f.shards.foldl (fun t id => t.next (stepShard id .abort now)) ⟨m, []⟩
    else ⟨m, []⟩

/-- whether the first shutdown has something to do -/
def mayTakeLeave (m : Manager) (now : Nat) : Bool :=
  match m.farewells with
  | [] => false
  | f :: _ => f.deadline ≤ now || f.shards.all m.hasEnded

/-! ## Steps -/

def step (now : Nat) (x : Stimulus) (m : Manager) : Turn :=
  match x with
  | .start shards maxConcurrency => start m.profile shards maxConcurrency now m
  | .connect answer => connect answer now m
  | .submit id ticket msg => submit id ticket msg now m
  | .shutdown => shutdown now m
  | .shard id x => stepShard id x now m
  | .lane bucket => look bucket now m
  | .farewell => takeLeave now m

end Manager

end Shardwire
