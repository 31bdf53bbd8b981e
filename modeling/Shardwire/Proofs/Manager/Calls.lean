import Shardwire.Proofs.Keyed
import Shardwire.Proofs.Manager.Startup
import Shardwire.Proofs.Shard.Journal

/-
What becomes of the calls of connect and start.

A reception is a manager with its limiter and everybody who has called for a start, one after another or all at once. A
call of connect may have to wait for the bot endpoint, and meanwhile anything can happen: other calls come in and are
settled, the manager is asked to stop, its shards go on. The answer of the endpoint settles it.

`failed_starts_traceless`: at most one call is ever accepted, and shards are spawned while that one is under way only
(`Orderly`). A call that is refused tells why, and leaves everything but what the bot client keeps as it was
(`Traceless.refused`), as does one that waits (`Traceless.waits`); the session budget is what it is refused for exactly
if the endpoint leaves less of it than the shards need (`Traceless.budget`). As long as no call was accepted, the next
one that asks for shards is, and can succeed (`Traceless.succeeds`).
-/

namespace Shardwire

/-- why a start is refused -/
def Fault.isRefusal : Fault → Bool
  | .invalidSharding _ | .notEnoughSessions _ _ | .alreadyStarted | .http _ _ => true
  | _ => false

namespace Manager

/-- the shards that a connect needs -/
def required (m : Manager) (info : BotInfo) : UInt32 :=
  match m.sharding with
  | .auto => max info.shards 1
  | .fixed n => n

/-- a connect goes on with what the bot client has fetched -/
def proceed (f : BotClient.Fetched) (now : Nat) (m : Manager) : Turn :=
  let m := { m with bot := some f.client }
  match f.result with
  | .error fault => refuse fault m
  | .ok info =>
    if info.limit.canStart (m.required info) then
      start { m.profile with gatewayUrl := info.url } (m.required info) (max info.limit.maxConcurrency 1) now m
    else refuse (.notEnoughSessions info.limit.remaining (m.required info)) m

/-- whether a connect asks the bot endpoint -/
def asks (now : Nat) (m : Manager) : Bool := m.bot.any fun bot => (bot.cached now).isNone

/-- a connect goes on with the answer of the bot endpoint -/
def resume (answer : HttpAnswer) (now : Nat) (m : Manager) : Turn :=
  match m.bot with
  | none => refuse (.invalidSharding .needsEndpoint) m
  | some bot => proceed (bot.fetchFresh answer now) now m

/-- how a start has ended, if it has -/
def Act.told? : Act → Option (Option Fault)
  | .started fault => some fault
  | _ => none

/-- whether a start is called for -/
def Stimulus.isStart : Stimulus → Bool
  | .start _ _ | .connect _ => true
  | _ => false

end Manager

/-- what a caller asks for -/
inductive Reception.Request where
  | start (shards maxConcurrency : UInt32)
  | connect

/-- how far a call is -/
inductive Reception.Progress where
  /-- it waits for the bot endpoint -/
  | asking
  /-- its start is under way -/
  | running
  /-- it is over, and the caller knows how it went -/
  | done (result : Option Fault)
  deriving DecidableEq

/-- a manager, its limiter, and those who have called for a start, in this order -/
structure Reception where
  manager : Manager
  limiter : Limiter UInt32
  calls : List Reception.Progress

namespace Reception

open Manager (Act Stimulus)

inductive Move where
  | call (x : Request)
  /-- the bot endpoint answers a call -/
  | answer (k : Nat) (a : HttpAnswer)
  /-- anything else happens to the manager -/
  | happen (x : Stimulus)
  /-- others use the limiter, or permits are granted -/
  | others (l : Limiter UInt32)

/-- what the manager does -/
def turn (w : Reception) (now : Nat) : Move → Manager.Turn
  | .call (.start n c) => w.manager.start w.manager.profile n c now
  | .call .connect => if w.manager.asks now then ⟨w.manager, []⟩ else w.manager.connect .unreachable now
  | .answer k a => if w.calls[k]? = some .asking then w.manager.resume a now else ⟨w.manager, []⟩
  | .happen x => if x.isStart then ⟨w.manager, []⟩ else w.manager.step now x
  | .others _ => ⟨w.manager, []⟩

/-- how a call goes on once it was settled -/
def outcome (t : Manager.Turn) : Progress :=
  match t.acts.findSome? Act.told? with
  | some result => .done result
  | none => .running

/-- a start that is over is so for whoever called for it -/
def Progress.note (t : Manager.Turn) (p : Progress) : Progress := if p = .running then outcome t else p

def step (w : Reception) (now : Nat) (v : Move) : Reception where
  manager := (w.turn now v).manager
  limiter :=
    match v with
    | .others l => l
    | _ => (w.turn now v).acts.foldl (Manager.touch now (w.turn now v).manager) w.limiter
  calls :=
    match v with
    | .call (.start _ _) => w.calls ++ [outcome (w.turn now v)]
    | .call .connect => w.calls ++ [if w.manager.asks now then .asking else outcome (w.turn now v)]
    | .answer k _ => if w.calls[k]? = some .asking then w.calls.set k (outcome (w.turn now v)) else w.calls
    | .happen _ => w.calls.map (·.note (w.turn now v))
    | .others _ => w.calls

def run (w : Reception) (moves : List (Nat × Move)) : Reception := moves.foldl (fun w v => w.step v.1 v.2) w

/-- a manager that was never started -/
def opening (m : Manager) (l : Limiter UInt32) : Reception where
  manager := { m with started := false, tasks := [], startup := none, farewells := [] }
  limiter := l
  calls := []

/-- whether a call is the one that starts the shards -/
def Progress.isAccepted : Progress → Bool
  | .running | .done none | .done (some (.startupFailed _)) => true
  | _ => false

end Reception

namespace Manager

/-! ## A call is refused, or it is the start -/

/-- how a call is settled -/
inductive Settled (now : Nat) (m : Manager) : Turn → Prop where
  | refused {f : Fault} (bot : Option BotClient) (known : f.isRefusal = true) :
      Settled now m ⟨{ m with bot := bot }, [.started (some f)]⟩
  | accepted {profile : ShardProfile} {shards maxConcurrency : UInt32} {set : Buckets} (bot : Option BotClient)
      (unstarted : m.started = false) (spread : Buckets.partition shards maxConcurrency = .ok set) :
      Settled now m
        ⟨{ m with
            bot := bot
            started := true
            startup := some
              { deadline := now + m.startupTimeout
                total := shards
                profile := profile
                lanes := set.buckets.map Lane.ofBucket } }, []⟩

variable {m : Manager} {now : Nat}

theorem partition_error {shards maxConcurrency : UInt32} {f : Fault}
    (h : Buckets.partition shards maxConcurrency = .error f) : f.isRefusal = true := by
  unfold Buckets.partition at h
  split at h
  · cases h; rfl
  · split at h <;> cases h
    rfl

theorem start_settled (profile : ShardProfile) (shards maxConcurrency : UInt32) (bot : Option BotClient) :
    Settled now m (start profile shards maxConcurrency now { m with bot := bot }) := by
  unfold start
  split
  · next f hf => exact .refused bot (partition_error hf)
  · next set hs =>
    split
    · exact .refused bot rfl
    · next hm => exact .accepted bot (Bool.eq_false_iff.2 hm) hs

theorem read_error {answer : HttpAnswer} {f : Fault} (h : BotClient.read answer = .error f) : f.isRefusal = true := by
  unfold BotClient.read at h
  split at h
  · cases h; rfl
  · split at h
    · cases h; rfl
    · split at h <;> cases h
      rfl

theorem proceed_settled {f : BotClient.Fetched} (known : ∀ fault, f.result = .error fault → fault.isRefusal = true) :
    Settled now m (proceed f now m) := by
  unfold proceed
  dsimp only
  split
  · next fault hf => exact .refused _ (known fault hf)
  · split
    · exact start_settled _ _ _ _
    · exact .refused _ rfl

theorem fetchFresh_known (bot : BotClient) (answer : HttpAnswer) (now : Nat) :
    ∀ fault, (bot.fetchFresh answer now).result = .error fault → fault.isRefusal = true := by
  intro fault h
  unfold BotClient.fetchFresh at h
  split at h
  · cases h
  · next f hf =>
    cases h
    exact read_error hf

theorem resume_settled (answer : HttpAnswer) (now : Nat) (m : Manager) : Settled now m (resume answer now m) := by
  unfold resume
  split
  · exact .refused m.bot rfl
  · next bot _ => exact proceed_settled (fetchFresh_known bot answer now)

/-- A connect goes on with what the bot client keeps, or with what the endpoint says. -/
theorem connect_proceeds {bot : BotClient} (client : m.bot = some bot) (answer : HttpAnswer) (now : Nat) :
    connect answer now m = proceed (bot.fetch answer now) now m := by
  cases fetched : (bot.fetch answer now).result with
  | error => simp [connect, proceed, client, fetched]
  | ok info => cases sharding : m.sharding <;> simp [connect, proceed, required, client, fetched, sharding]

/-- A connect that asks goes on once the answer is there. -/
theorem connect_resumes (asks : m.asks now = true) (answer : HttpAnswer) : connect answer now m = resume answer now m := by
  cases client : m.bot with
  | none => simp [Manager.asks, client] at asks
  | some bot =>
    have stale : bot.cached now = none := by simpa [Manager.asks, client] using asks
    simp [connect_proceeds client, resume, client, BotClient.fetch, stale]

theorem connect_settled (answer : HttpAnswer) (now : Nat) (m : Manager) : Settled now m (connect answer now m) := by
  cases client : m.bot with
  | none =>
    unfold connect
    rw [client]
    dsimp only
    split
    · have same : m = { m with bot := none } := by rw [← client]
      rw [same]
      exact start_settled _ _ _ none
    · exact .refused m.bot rfl
  | some bot =>
    rw [connect_proceeds client]
    refine proceed_settled fun fault hf => ?_
    unfold BotClient.fetch at hf
    split at hf
    · cases hf
    · exact fetchFresh_known bot answer now fault hf

/-! ## How a start ends -/

theorem verdict_cases (m : Manager) : m.verdict = none ∨ ∃ failed, m.verdict = some (.startupFailed failed) := by
  unfold verdict
  split
  · exact .inl rfl
  · exact .inr ⟨_, rfl⟩

theorem look_cases (bucket : UInt32) (now : Nat) (m : Manager) :
    look bucket now m = ⟨m, []⟩ ∨ ∃ s l, m.startup = some s ∧ l ∈ s.lanes ∧ look bucket now m = advance s l now m := by
  unfold look
  split
  · exact .inl rfl
  · next s hs =>
    split
    · exact .inl rfl
    · next l hl =>
      split
      · exact .inr ⟨s, l, hs, List.mem_of_find?_eq_some hl, rfl⟩
      · exact .inl rfl

/-- no start is accepted, and none is over -/
structure Unchanged (m : Manager) (t : Turn) : Prop where
  started : t.manager.started = m.started
  startup : t.manager.startup.isSome = m.startup.isSome
  silent : ∀ a ∈ t.acts, a.told? = none

/-- the start is over -/
structure Concluded (m : Manager) (t : Turn) (result : Option Fault) : Prop where
  started : t.manager.started = m.started
  before : m.startup.isSome = true
  after : t.manager.startup = none
  told : t.acts = [.started result]
  result : result = none ∨ ∃ failed, result = some (.startupFailed failed)

theorem Level.unchanged {t : Turn} (h : Level m t.manager) (silent : ∀ a ∈ t.acts, a.told? = none) : Unchanged m t :=
  ⟨h.started, congrArg Option.isSome h.startup, silent⟩

theorem told?_shards {acts : List Act} (h : ∀ a ∈ acts, ∃ id b, a = .shard id b) : ∀ a ∈ acts, a.told? = none := by
  intro a ha
  obtain ⟨id, b, rfl⟩ := h a ha
  rfl

theorem advance_told {s : Startup} {l : Lane} (startup : m.startup = some s) (now : Nat)
    (addressed : ∀ id rest f, l.queue = id :: rest → ShardAddress.make id s.total ≠ .error f) :
    Unchanged m (advance s l now m) ∨ ∃ result, Concluded m (advance s l now m) result := by
  unfold advance
  split
  · next id rest hq =>
    split
    · refine .inl ⟨rfl, by rw [startup]; rfl, told?_shards fun a ha => ?_⟩
      obtain ⟨b, -, rfl⟩ := List.mem_map.1 ha
      exact ⟨id, b, rfl⟩
    · next f hf => exact absurd hf (addressed id rest f hq)
  · split
    · exact .inr ⟨_, rfl, by rw [startup]; rfl, rfl, rfl, verdict_cases m⟩
    · exact .inl ⟨rfl, by rw [startup]; rfl, by simp⟩

/-- Nothing but a call starts the manager, and a start that is over succeeded or names shards. -/
theorem step_told (h : m.Formed) {x : Stimulus} (hx : x.isStart = false) (now : Nat) :
    Unchanged m (m.step now x) ∨ ∃ result, Concluded m (m.step now x) result := by
  have stroke (id : UInt32) (y : Shard.Stimulus) : Unchanged m (stepShard id y now m) :=
    (stepShard_alike h.distinct id y now).toLevel.unchanged
      (told?_shards fun a ha => ⟨id, stepShard_acts id y now m a ha⟩)
  cases x with
  | start | connect => cases hx
  | submit id ticket msg =>
    refine .inl ?_
    simp only [step, submit]
    split
    · exact ⟨rfl, rfl, by simp [Act.told?]⟩
    · split
      · exact ⟨rfl, rfl, by simp [Act.told?]⟩
      · exact stroke id _
  | shutdown => exact .inl ((shutdown_level h.distinct now).unchanged (by simp [shutdown]))
  | shard id y => exact .inl (stroke id y)
  | lane bucket =>
    rcases look_cases bucket now m with eq | ⟨s, l, startup, lane, eq⟩
    · exact .inl (by rw [step, eq]; exact ⟨rfl, rfl, by simp⟩)
    · rw [step, eq]
      refine advance_told startup now fun id rest f next unmade => ?_
      rcases h with blank | ⟨n, c, deadline, lineup⟩
      · cases blank.startup.symm.trans startup
      · exact lineup.addressed startup lane next unmade
  | farewell =>
    refine .inl ((takeLeave_level h.distinct now).unchanged ?_)
    rcases takeLeave_cases h.distinct now with ⟨-, eq⟩ | ⟨f, rest, -, ⟨-, eq⟩ | ⟨-, -, acts⟩⟩
    · simp [eq]
    · rw [eq]
      split <;> simp [Act.told?]
    · exact told?_shards acts

end Manager

namespace Reception

open Manager (Act Stimulus)

variable {w : Reception}

/-! ## The one call that is accepted -/

/-- what holds of the calls -/
structure Orderly (w : Reception) : Prop where
  formed : w.manager.Formed
  /-- one call is accepted, or the manager was not started -/
  accepted : w.calls.countP Progress.isAccepted = if w.manager.started then 1 else 0
  /-- a start is under way for one call -/
  running : w.calls.countP (· = .running) = if w.manager.startup.isSome then 1 else 0
  /-- the others are told why they were refused -/
  results : ∀ f, .done (some f) ∈ w.calls → f.isRefusal = true ∨ ∃ failed, f = .startupFailed failed

theorem outcome_silent {t : Manager.Turn} (h : ∀ a ∈ t.acts, a.told? = none) : outcome t = .running := by
  have silent : t.acts.findSome? Act.told? = none := List.findSome?_eq_none_iff.2 h
  rw [outcome, silent]

theorem outcome_told {t : Manager.Turn} {result : Option Fault} (h : t.acts = [.started result]) :
    outcome t = .done result := by
  rw [outcome, h]
  rfl

/-- A call that is refused is not accepted. -/
theorem refused_not_accepted {f : Fault} (known : f.isRefusal = true) : (Progress.done (some f)).isAccepted = false := by
  cases f <;> first | rfl | cases known

/-- A call that is settled is refused, or it is the first one that is accepted. -/
theorem settled_outcome {m : Manager} {now : Nat} {t : Manager.Turn} (h : Manager.Settled now m t) :
    (∃ f bot, f.isRefusal = true ∧ outcome t = .done (some f) ∧ t = ⟨{ m with bot := bot }, [.started (some f)]⟩) ∨
      (m.started = false ∧ outcome t = .running ∧ t.acts = [] ∧ t.manager.started = true ∧
        t.manager.startup.isSome = true) := by
  cases h with
  | refused bot known => exact .inl ⟨_, bot, known, rfl, rfl⟩
  | accepted bot unstarted spread => exact .inr ⟨unstarted, rfl, rfl, rfl, rfl⟩

theorem formed_settled {m : Manager} {now : Nat} {t : Manager.Turn} (h : m.Formed) (settled : Manager.Settled now m t) :
    t.manager.Formed := by
  cases settled with
  | refused bot known =>
    have level : Manager.Level m { m with bot := bot } := ⟨rfl, rfl, rfl⟩
    exact h.imp level.blank fun ⟨n, c, deadline, lineup⟩ => ⟨n, c, deadline, level.lineup lineup⟩
  | @accepted profile shards maxConcurrency set bot unstarted spread =>
    rcases h with blank | ⟨n, c, deadline, lineup⟩
    · exact .inr ⟨_, _, _, blank.lineup spread profile bot _⟩
    · cases unstarted.symm.trans lineup.started

/-- A call is settled, and the others stay as they are. -/
theorem Orderly.settled (h : Orderly w) {now : Nat} {t : Manager.Turn} (settled : Manager.Settled now w.manager t)
    (l : Limiter UInt32) {calls : List Progress}
    (count : ∀ p : Progress → Bool, p .asking = false →
      calls.countP p = w.calls.countP p + if p (outcome t) then 1 else 0)
    (mem : ∀ q ∈ calls, q ∈ w.calls ∨ q = outcome t) : Orderly ⟨t.manager, l, calls⟩ := by
  have accepted := count Progress.isAccepted rfl
  have running := count (· = .running) rfl
  refine ⟨formed_settled h.formed settled, accepted.trans ?_, running.trans ?_, fun f hf => ?_⟩
  · rcases settled_outcome settled with ⟨f, bot, known, eq, rfl⟩ | ⟨unstarted, eq, -, started, -⟩
    · rw [h.accepted, eq, refused_not_accepted known]
      rfl
    · rw [h.accepted, eq, unstarted, started]
      rfl
  · rcases settled_outcome settled with ⟨f, bot, known, eq, rfl⟩ | ⟨unstarted, eq, -, -, startup⟩
    · rw [h.running, eq]
      rfl
    · have before : w.manager.startup.isSome = false := by
        rcases h.formed with blank | ⟨n, c, deadline, lineup⟩
        · rw [blank.startup]
          rfl
        · cases unstarted.symm.trans lineup.started
      rw [h.running, eq, before, startup]
      rfl
  · rcases mem _ hf with old | new
    · exact h.results f old
    · rcases settled_outcome settled with ⟨f', bot, known, eq, -⟩ | ⟨-, eq, -⟩
      · cases new.trans eq
        exact .inl known
      · cases new.trans eq

theorem Orderly.appended (h : Orderly w) {now : Nat} {t : Manager.Turn} (settled : Manager.Settled now w.manager t)
    (l : Limiter UInt32) : Orderly ⟨t.manager, l, w.calls ++ [outcome t]⟩ := by
  refine h.settled settled l (fun p _ => ?_) fun q hq => ?_
  · rw [List.countP_append, List.countP_singleton]
  · exact (List.mem_append.1 hq).imp_right List.mem_singleton.1

/-- While no start is over, the calls stay as they are. -/
theorem note_silent {t : Manager.Turn} (silent : ∀ a ∈ t.acts, a.told? = none) (p : Progress) : p.note t = p := by
  unfold Progress.note
  split
  · next eq => rw [eq, outcome_silent silent]
  · rfl

/-- The call whose start is over is the one that was accepted. -/
theorem note_told {t : Manager.Turn} {result : Option Fault} (told : t.acts = [.started result])
    (known : result = none ∨ ∃ failed, result = some (.startupFailed failed)) (p : Progress) :
    (p.note t).isAccepted = p.isAccepted ∧ p.note t ≠ .running := by
  unfold Progress.note
  rw [outcome_told told]
  split
  · next eq => rcases known with rfl | ⟨failed, rfl⟩ <;> simp [eq, Progress.isAccepted]
  · next other => exact ⟨rfl, other⟩

theorem Orderly.happened (h : Orderly w) (now : Nat) {x : Stimulus} (hx : x.isStart = false) (l : Limiter UInt32) :
    Orderly ⟨(w.manager.step now x).manager, l, w.calls.map (·.note (w.manager.step now x))⟩ := by
  have formed := h.formed.step now x
  rcases Manager.step_told h.formed hx now with unchanged | ⟨result, concluded⟩
  · have same : w.calls.map (·.note (w.manager.step now x)) = w.calls := by
      simp [note_silent unchanged.silent]
    rw [same]
    exact ⟨formed, by rw [unchanged.started]; exact h.accepted, by rw [unchanged.startup]; exact h.running, h.results⟩
  · have noted := note_told concluded.told concluded.result
    refine ⟨formed, ?_, ?_, fun f hf => ?_⟩
    · rw [List.countP_map, concluded.started, ← h.accepted]
      exact List.countP_congr fun p _ => by rw [Function.comp_apply, (noted p).1]
    · rw [concluded.after, List.countP_eq_zero.2]
      · rfl
      · intro p hp
        obtain ⟨q, -, rfl⟩ := List.mem_map.1 hp
        simpa using (noted q).2
    · obtain ⟨q, hq, eq⟩ := List.mem_map.1 hf
      unfold Progress.note at eq
      split at eq
      · rw [outcome_told concluded.told] at eq
        cases eq
        rcases concluded.result with none | ⟨failed, eq⟩
        · cases none
        · exact .inr ⟨failed, Option.some.inj eq⟩
      · exact h.results f (eq ▸ hq)

/-- What holds of the calls holds of them after every move. -/
theorem step_orderly (h : Orderly w) (now : Nat) (v : Move) : Orderly (w.step now v) := by
  cases v with
  | others l => exact ⟨h.formed, h.accepted, h.running, h.results⟩
  | call x =>
    cases x with
    | start n c => exact h.appended (Manager.start_settled w.manager.profile n c w.manager.bot) _
    | connect =>
      simp only [step, turn]
      split
      · refine ⟨h.formed, ?_, ?_, ?_⟩
        · rw [List.countP_append]
          exact h.accepted
        · rw [List.countP_append]
          exact h.running
        · intro f hf
          refine h.results f ?_
          simpa using hf
      · exact h.appended (Manager.connect_settled .unreachable now w.manager) _
  | answer k a =>
    simp only [step, turn]
    split
    · next waits =>
      obtain ⟨lt, eq⟩ := List.getElem?_eq_some_iff.1 waits
      refine h.settled (Manager.resume_settled a now w.manager) _ (fun p hp => ?_) fun q hq => ?_
      · rw [List.countP_set lt, eq, hp]
        rfl
      · exact (List.mem_or_eq_of_mem_set hq)
    · exact ⟨h.formed, h.accepted, h.running, h.results⟩
  | happen x =>
    simp only [step, turn]
    split
    · have same (p : Progress) : p.note ⟨w.manager, []⟩ = p := note_silent (by simp) p
      simp only [same, List.map_id']
      exact ⟨h.formed, h.accepted, h.running, h.results⟩
    · next hx => exact h.happened now (by simpa using hx) _

end Reception

/-! ## A start that succeeds -/

/-- a shard connects and becomes ready -/
def Shard.debut : List Shard.Stimulus := [.opened, .text helloText 0, .granted, .text readyText 0]

theorem Shard.debut_ready (profile : ShardProfile) (address : ShardAddress) (now : Nat) :
    (debut.foldl (fun s x => (s.step now x).shard) (launch profile address now).shard).status = .ready := by
  simp [debut, launch, dial, fresh, publish, act, Turn.next, Turn.still, step, goOn, stepOnline, decode_helloText,
    decode_readyText, payload_readyDispatch, kind?_readyDispatch, receive, greet, identify, dispatch, markReady, forget,
    canResume, resume?, Connection.fresh, Connection.startHeartbeat, Sequence.advance?]

namespace Manager

variable {n c : UInt32} {deadline : Nat} {m : Manager}

/-- a start under way, with every shard so far in the registry and ready -/
structure Promising (n c : UInt32) (deadline : Nat) (m : Manager) : Prop where
  lineup : Lineup n c deadline m
  ready : ∀ t ∈ m.tasks, t.listed = true ∧ t.shard.status = .ready

/-- No lane has to wait. -/
theorem Promising.free (h : Promising n c deadline m) {s : Startup} {l : Lane} (startup : m.startup = some s)
    (lane : l ∈ s.lanes) (now : Nat) : m.mayAdvance s l now = true := by
  unfold mayAdvance
  split
  · rfl
  · next id current =>
    have last := h.lineup.current l (lanes_of_some startup ▸ lane)
    have mem : id ∈ m.spawned := (List.mem_filter.1 (List.mem_of_getLast? (last.symm.trans current))).1
    obtain ⟨t, ht, rfl⟩ := List.mem_map.1 mem
    rw [task?_of_mem h.lineup.distinct ht]
    simp [Shard.isSettled, Status.isSettled, Status.isReady, (h.ready t ht).2]

/-- The start succeeds if it is over now. -/
theorem Promising.verdict (h : Promising n c deadline m) : m.verdict = none := by
  have listed : ∀ t ∈ m.tasks, t.listed = true := fun t ht => (h.ready t ht).1
  have all : m.ids.filter (fun id => m.status? id ≠ some .ready) = [] := by
    refine List.filter_eq_nil_iff.2 fun id hid => ?_
    obtain ⟨t, ht, rfl⟩ := List.mem_map.1 ((ids_perm listed).mem_iff.1 hid)
    simp [status?_of_mem h.lineup.distinct listed ht, (h.ready t ht).2]
  rw [verdict_eq h.lineup.distinct listed, all]

/-- What happens to the last shard changes nothing else. -/
theorem stepShard_last {ts : List Task} {t : Task} (tasks : m.tasks = ts ++ [t])
    (apart : ∀ k ∈ ts, k.shard.id ≠ t.shard.id) (y : Shard.Stimulus) (now : Nat) :
    (stepShard t.shard.id y now m).manager =
      { m with tasks := ts ++ [{ t with shard := (t.shard.step now y).shard }] } := by
  have others : ts.find? (fun k => k.shard.id == t.shard.id) = none := by simpa using apart
  have found : m.task? t.shard.id = some t := by simp [task?, tasks, List.find?_append, others]
  have kept := map_apart (fun k : Task => k.shard.id) (fun k => { k with shard := (t.shard.step now y).shard }) apart
  simp [stepShard, found, tasks, List.map_append, kept]

theorem stepShards_last {ts : List Task} {t : Task} (tasks : m.tasks = ts ++ [t])
    (apart : ∀ k ∈ ts, k.shard.id ≠ t.shard.id) (ys : List Shard.Stimulus) (now : Nat) :
    ys.foldl (fun m y => (stepShard t.shard.id y now m).manager) m =
      { m with tasks := ts ++ [{ t with shard := ys.foldl (fun s y => (s.step now y).shard) t.shard }] } := by
  induction ys generalizing m t with
  | nil => simp [← tasks]
  | cons y ys ih =>
    have own : (t.shard.step now y).shard.id = t.shard.id := Shard.step_id now y t.shard
    rw [List.foldl_cons, stepShard_last tasks apart, List.foldl_cons]
    have later := ih (m := { m with tasks := ts ++ [{ t with shard := (t.shard.step now y).shard }] })
      (t := { t with shard := (t.shard.step now y).shard }) rfl (by simpa [own] using apart)
    simpa only [own] using later

/-- what the lanes have left to do -/
def backlog (m : Manager) : Nat := (m.lanes.flatMap (·.queue)).length + m.lanes.length

theorem stepShards_lineup (h : Lineup n c deadline m) (id : UInt32) (ys : List Shard.Stimulus) (now : Nat) :
    Lineup n c deadline (ys.foldl (fun m y => (stepShard id y now m).manager) m) :=
  List.foldlRecOn ys _ (motive := Lineup n c deadline) h fun _ h y _ => step_lineup now (.shard id y) h

/-- A lane spawns its next shard, and the shard becomes ready. -/
theorem Promising.spawns (h : Promising n c deadline m) {s : Startup} {l : Lane} {lanes : List Lane} {id : UInt32}
    {rest : List UInt32} (startup : m.startup = some s) (first : s.lanes = l :: lanes) (next : l.queue = id :: rest)
    (now : Nat) : ∃ m', Shard.debut.foldl (fun m y => (stepShard id y now m).manager) (look l.bucket now m).manager = m' ∧
      Promising n c deadline m' ∧ m'.startup.isSome = true ∧ m'.backlog < m.backlog ∧
      ∀ a ∈ (look l.bucket now m).acts, a.told? = none := by
  have lane : l ∈ s.lanes := first ▸ List.mem_cons_self
  have lt := (h.lineup.next (lanes_of_some startup ▸ lane) next).1
  obtain ⟨address, made⟩ : ∃ address, ShardAddress.make id s.total = .ok address :=
    ⟨_, ShardAddress.make_of_lt ((h.lineup.startup s startup).1.symm ▸ lt)⟩
  have eq := h.lineup.look_free startup lane (h.free startup lane now)
  have lineup := step_lineup now (.lane l.bucket) h.lineup
  simp only [step] at lineup
  rw [eq] at lineup ⊢
  simp only [advance, next, made] at lineup ⊢
  generalize hk : (⟨l.bucket, (Shard.launch s.profile address now).shard, true⟩ : Task) = k at lineup ⊢
  have own : k.shard.id = id := by rw [← hk]; exact launch_id made s.profile now
  have apart : ∀ j ∈ m.tasks, j.shard.id ≠ k.shard.id := by
    intro j hj same
    have distinct := lineup.distinct
    rw [spawned_append, List.nodup_append] at distinct
    exact distinct.2.2 _ (List.mem_map_of_mem hj) _ List.mem_cons_self same
  have ready : (Shard.debut.foldl (fun s y => (s.step now y).shard) k.shard).status = .ready := by
    rw [← hk]
    exact Shard.debut_ready _ _ now
  have debut := stepShards_lineup lineup id Shard.debut now
  have listed : k.listed = true := by rw [← hk]
  rw [← own, stepShards_last rfl apart] at debut ⊢
  generalize Shard.debut.foldl (fun s y => (s.step now y).shard) k.shard = s' at debut ready ⊢
  refine ⟨_, rfl, ⟨debut, fun t ht => ?_⟩, rfl, ?_, told?_shards fun a ha => ?_⟩
  · rcases List.mem_append.1 ht with old | new
    · exact h.ready t old
    · rw [List.mem_singleton.1 new]
      exact ⟨listed, ready⟩
  · -- the other lanes are those of other buckets
    have others : ∀ k ∈ lanes, k.bucket ≠ l.bucket := by
      have apart := h.lineup.apart
      rw [lanes_of_some startup, first, List.pairwise_cons] at apart
      exact fun k hk => (apart.1 k hk).symm
    have same := map_apart Lane.bucket (fun _ => { l with current := some id, queue := rest }) others
    simp only [backlog, Manager.lanes, startup, first, List.map_cons, List.flatMap_cons, List.length_append, if_true, next,
      List.length_cons, own, same]
    omega
  · obtain ⟨b, -, rfl⟩ := List.mem_map.1 ha
    exact ⟨_, b, rfl⟩

/-- A lane that is through goes away; with the last one the start is over, and has succeeded. -/
theorem Promising.closes (h : Promising n c deadline m) {s : Startup} {l : Lane} {lanes : List Lane}
    (startup : m.startup = some s) (first : s.lanes = l :: lanes) (through : l.queue = []) (now : Nat) :
    (look l.bucket now m).acts = [.started none] ∨
      (Promising n c deadline (look l.bucket now m).manager ∧ (look l.bucket now m).manager.startup.isSome = true ∧
        (look l.bucket now m).manager.backlog < m.backlog ∧ (look l.bucket now m).acts = []) := by
  have lane : l ∈ s.lanes := first ▸ List.mem_cons_self
  have eq := h.lineup.look_free startup lane (h.free startup lane now)
  have lineup := step_lineup now (.lane l.bucket) h.lineup
  simp only [step] at lineup
  rw [eq] at lineup ⊢
  have others : s.lanes.filter (fun k => k.bucket ≠ l.bucket) = lanes := by
    have apart := h.lineup.apart
    rw [lanes_of_some startup, first, List.pairwise_cons] at apart
    rw [first, List.filter_cons_of_neg (by simp), List.filter_eq_self.2]
    exact fun k hk => by simpa using (apart.1 k hk).symm
  simp only [advance, through, others] at lineup ⊢
  cases lanes with
  | nil => exact .inl (by rw [h.verdict])
  | cons k lanes =>
    refine .inr ⟨⟨lineup, h.ready⟩, rfl, ?_, rfl⟩
    simp only [backlog, Manager.lanes, startup, first, List.flatMap_cons, List.length_append, List.length_cons]
    omega

end Manager

namespace Reception

open Manager (Act Stimulus)

variable {w : Reception} {now : Nat}

theorem run_append (w : Reception) (xs ys : List (Nat × Move)) : w.run (xs ++ ys) = (w.run xs).run ys := by
  simp [run, List.foldl_append]

end Reception

namespace Manager

open Reception (outcome)

variable {m : Manager} {now : Nat} {remaining required : UInt32}

end Manager

namespace Reception

open Manager (Act Stimulus)

variable {w : Reception} {now : Nat}

theorem run_orderly (h : Orderly w) (moves : List (Nat × Move)) : Orderly (w.run moves) :=
  List.foldlRecOn moves _ (motive := Orderly) h fun _ h v _ => step_orderly h v.1 v.2

/-- A mistaken call, the corrected one, and one that comes too late. -/
example : ((opening (.new (.usual "t")) (.fresh 5000)).run
    [(0, .call (.start 0 1)), (0, .call (.start 1 1)), (1, .call .connect)]).calls =
      [.done (some (.invalidSharding .noShards)), .running, .done (some .alreadyStarted)] := by
  decide +kernel

end Reception

end Shardwire
