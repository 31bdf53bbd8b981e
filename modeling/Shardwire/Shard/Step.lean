import Shardwire.Limiter
import Shardwire.Shard.Basic

/-
What a shard does.

A connection is asked for at the session's address if the session can be resumed, and at the configured one otherwise.
Once it is open the gateway says Hello; heartbeats start, and the shard resumes its session or queues for an identify
permit. READY and RESUMED finish the handshake. However a connection ends, the shard lets go of it and then stops for
good, or waits out its backoff and asks for the next one; on the way it keeps the session or gives it up.

A stimulus that the present phase has no use for changes nothing.

Here nothing holds the shard up: a frame is taken at once, or, when its receiver is gone, not at all, and every time can
be told. `Shard.stepClocked` adds the end of the clock, and `Runner` the queue that frames wait in and the budget that
commands wait for.
-/

namespace Shardwire.Shard

/-! ## Status -/

/-- shows a status, if it is a new one -/
def publish (st : Status) (s : Shard) : Turn :=
  if s.status = st then .still s else ⟨{ s with status := st }, [.publish st]⟩

/-- does something and stays as it is -/
def act (a : Act) (s : Shard) : Turn := ⟨s, [a]⟩

/-- goes on with a connection -/
def goOn (c : Connection) (queued : Bool) (s : Shard) : Turn := .still { s with phase := .online c queued }

/-! ## Between connections -/

/-- asks for a connection -/
def dial (now : Nat) (s : Shard) : Turn :=
  let resume := s.canResume
  let url := s.url resume
  (publish .connecting { s with phase := .dialling resume (now + s.profile.identifyTimeout) }).next (act (.dial url))

/-- the answer to a command that will not be carried out -/
def refusal (s : Shard) : Command → Option Act
  | .send ticket _ => some (.answer ticket (some (.shardNotReady s.id)))
  | .stop => none

/-- ends; commands left in the mailbox are refused -/
def leave (s : Shard) : Turn := ⟨{ s with phase := .ended, mailbox := [] }, s.mailbox.filterMap s.refusal⟩

/-- ends for good -/
def giveUp (f : Fault) (s : Shard) : Turn := ((publish .failed s).next (act (.fail f))).next leave

/-- how a connection, or the attempt to get one, came to an end -/
inductive Finish where
  | stopped
  /-- another attempt, `extra` milliseconds later than the backoff says -/
  | again (resume : Bool) (extra : Nat)
  | fatal (f : Fault)

/-- a connection that stayed ready long enough starts the backoff over -/
def settleBackoff (now : Nat) (s : Shard) : Shard :=
  match s.readySince with
  | some since =>
    { s with readySince := none, backoff := if s.profile.stableAfter ≤ now - since then s.backoff.reset else s.backoff }
  | none => s

/-- waits out the backoff, or gives up when there were too many attempts -/
def retry (extra now : Nat) (s : Shard) : Turn :=
  match s.backoff.next? with
  | some (delay, b) => .still { s with backoff := b, phase := .waiting (now + delay + extra) }
  | none => giveUp (.retriesExhausted s.id s.backoff.attempts) s

/-- goes on after a connection, or the attempt to get one, has ended -/
def finish (f : Finish) (now : Nat) (s : Shard) : Turn :=
  let s := s.settleBackoff now
  match f with
  | .stopped => (publish .disconnected s).next leave
  | .fatal fault => giveUp fault s
  | .again resume extra =>
    (publish .disconnected s).next fun s =>
      retry extra now (if resume then { s with resumable := true } else s.forget)

/-! ## On a connection -/

/-- lets go of the connection, and of the place in the queue for a permit -/
def hangUp (queued : Bool) (s : Shard) : Turn := ⟨s, if queued then [.withdraw, .hangUp] else [.hangUp]⟩

/-- the connection was lost -/
def lose (queued : Bool) (now : Nat) (s : Shard) : Turn := (hangUp queued s).next (finish (.again true 0) now)

/-- closes the connection and lets go of it -/
def closeWith (c : Connection) (queued : Bool) (closure : Closure) (s : Shard) : Turn :=
  ((publish .closing s).next fun s => ⟨s, if c.writable then [.close closure] else []⟩).next (hangUp queued)

/-- becomes ready -/
def markReady (c : Connection) (queued : Bool) (now : Nat) (s : Shard) : Turn :=
  publish .ready { s with phase := .online (c.markReady now) queued, readySince := some now }

/-- heartbeats start; the session is resumed, or a permit called for -/
def greet (c : Connection) (queued : Bool) (interval draw now : Nat) (s : Shard) : Turn :=
  let c := { c.startHeartbeat interval draw now with status := .identifying }
  (publish .identifying s).next fun s =>
    match if c.resuming then s.resume? else none with
    | some p =>
      if c.writable then
        (goOn { c with deadline := some (now + s.profile.identifyTimeout) } queued s).next (act (.write (.resume p)))
      else lose queued now s
    | none => (goOn { c with resuming := false, deadline := none } true s).next (act .enqueue)

/-- identifies, as a new session -/
def identify (c : Connection) (now : Nat) (s : Shard) : Turn :=
  let s := s.forget
  if c.writable then
    (goOn { c with deadline := some (now + s.profile.identifyTimeout) } false s).next
      (act (.write (.identify s.identity)))
  else lose false now s

/-- an event is handed on if it is newer than the last one; READY and RESUMED finish the handshake -/
def dispatch (c : Connection) (queued : Bool) (d : Dispatch) (now : Nat) (s : Shard) : Turn :=
  match s.sequence.advance? d.seq with
  | none => goOn c queued s
  | some seq =>
    let s := { s with sequence := seq }
    let t := match d.kind? with
      | some .ready =>
        match Json.decodeValue Ready.decoder d.data with
        | .ok p => markReady c queued now { s with session := some (Session.ofReady p), resumable := true }
        | .error _ => goOn c queued s
      | some .resumed => markReady { c with resuming := false } queued now s
      | _ => goOn c queued s
    t.next (act (.deliver d))

/-- the gateway gave the session up, or wants it resumed on another connection -/
def invalidate (c : Connection) (queued : Bool) (resumable : Bool) (now : Nat) (s : Shard) : Turn :=
  if resumable && s.session.isSome then
    (closeWith c queued (.resumable "invalid session") s).next (finish (.again true 0) now)
  else (closeWith c queued .normal s.forget).next (finish (.again false 0) now)

def receive (c : Connection) (queued : Bool) (e : Event) (draw now : Nat) (s : Shard) : Turn :=
  match e with
  | .hello p =>
    if c.status = .awaitingHello then greet c queued p.interval.toNat draw now s else goOn c queued s
  | .heartbeatAck => goOn { c with pulse := c.pulse.acked now } queued s
  | .heartbeat _ =>
    if c.writable then (goOn c queued s).next (act (.write (.heartbeat s.sequence))) else lose queued now s
  | .reconnect => (closeWith c queued (.resumable "reconnect requested") s).next (finish (.again true 0) now)
  | .invalidSession resumable => invalidate c queued resumable now s
  | .dispatch d => dispatch c queued d now s
  | _ => goOn c queued s

/-- how the shard goes on after a close frame -/
def afterClosure (c : Connection) (closure : Option Closure) : Finish :=
  let code := closure.map (·.code)
  match CloseCode.classify code with
  | .resume =>
    .again true (if code = some CloseCode.rateLimited.number then c.interval?.getD Limiter.gatewayWindow else 0)
  | .reidentify => .again false 0
  | .fatal =>
    .fatal (match code.bind CloseCode.ofNumber? with
      | some k => .ofCloseCode k
      | none => .connectionLost (.closed code))

/-! ## Commands -/

/-- a message is sent while the connection is ready, and refused otherwise -/
def obey (ticket : Nat) (m : Message) (now : Nat) (s : Shard) : Turn :=
  let refuse := act (.answer ticket (some (.shardNotReady s.id)))
  match s.phase with
  | .online c queued =>
    if c.status.isReady then
      if c.writable then (act (.write m) s).next (act (.answer ticket none))
      else (refuse s).next (lose queued now)
    else refuse s
  | _ => refuse s

/-- stops at the next opportunity, which is now -/
def halt (now : Nat) (s : Shard) : Turn :=
  match s.phase with
  | .dialling _ _ => finish .stopped now s
  | .online c queued => (closeWith c queued .normal s).next (finish .stopped now)
  | .waiting _ => leave s
  | .ended => .still s

/-- takes the next command -/
def take (now : Nat) (s : Shard) : Turn :=
  match s.mailbox with
  | .send ticket m :: rest => obey ticket m now { s with mailbox := rest }
  | .stop :: rest => halt now { s with mailbox := rest }
  | [] => if s.attended then .still s else halt now s

/-- what a caller meets: a shard that is not ready takes no messages -/
def submit (ticket : Nat) (m : Message) (s : Shard) : Turn :=
  if s.status.isReady && !s.isEnded then .still { s with mailbox := s.mailbox ++ [.send ticket m] }
  else act (.answer ticket (some (.shardNotReady s.id))) s

/-! ## Steps -/

/-- a deadline or the end of a wait -/
def expire (now : Nat) (s : Shard) : Turn :=
  match s.phase with
  | .dialling resume deadline => if deadline ≤ now then finish (.again resume 0) now s else .still s
  | .online c queued =>
    match s.timeoutDue? with
    | some deadline =>
      if deadline ≤ now then
        (closeWith c queued (.resumable "handshake timed out") s).next (finish (.again true 0) now)
      else .still s
    | none => .still s
  | .waiting deadline => if deadline ≤ now then dial now s else .still s
  | .ended => .still s

/-- stops by force -/
def abort (s : Shard) : Turn :=
  match s.phase with
  | .online _ queued => (hangUp queued s).next leave
  | .ended => .still s
  | _ => leave s

/-- what a shard with an open connection does -/
def stepOnline (c : Connection) (queued : Bool) (now : Nat) (x : Stimulus) (s : Shard) : Turn :=
  match x with
  | .text text draw =>
    match Event.decode text with
    | .ok e => receive c queued e draw now s
    | .error _ => .still s
  | .closed closure => (hangUp queued s).next (finish (afterClosure c closure) now)
  | .dropped => lose queued now s
  | .receiverGone => goOn { c with writable := false } queued s
  | .granted => if queued then identify c now s else .still s
  | .beat =>
    let r := c.beat s.sequence now
    (goOn r.1 queued s).next fun s => ⟨s, r.2.map fun m => .write m⟩
  | .missed =>
    if c.isZombie then
      ((publish .zombied s).next (closeWith c queued (.resumable "zombied connection"))).next
        (finish (.again true 0) now)
    else .still s
  | _ => .still s

def step (now : Nat) (x : Stimulus) (s : Shard) : Turn :=
  match x with
  | .submit ticket m => submit ticket m s
  | .stop => .still (if s.isEnded then s else { s with mailbox := s.mailbox ++ [.stop] })
  | .abandon => .still { s with attended := false }
  | .take => take now s
  | .timeout => expire now s
  | .abort => abort s
  | x =>
    match s.phase, x with
    | .dialling resume deadline, .opened =>
      (goOn { Connection.fresh now with resuming := resume, deadline := some deadline } false s).next
        (publish .awaitingHello)
    | .dialling resume _, .refused => finish (.again resume 0) now s
    | .online c queued, x => stepOnline c queued now x s
    | _, _ => .still s

/-- a new shard asks for its first connection -/
def launch (profile : ShardProfile) (address : ShardAddress) (now : Nat) : Turn :=
  dial now (fresh profile address now)

end Shardwire.Shard
