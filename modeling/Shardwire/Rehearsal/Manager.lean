import Shardwire.Manager.Clock
import Shardwire.Rehearsal.Stage

/-
A rehearsal of a manager against a gateway that plays along.

The gateway says Hello on every connection, acknowledges heartbeats and answers a resume with RESUMED. A shard that
identifies gets the next answer of its script, or becomes ready when the script is used up. Connections that a shard
identified or resumed on are known by that shard, and frames can be sent on the newest one.

At one moment lanes and shutdowns come first, so that a start sees its shards before anything else happens to them.
-/

namespace Shardwire.Rehearsal.Manager

/-- how the gateway answers an identify -/
inductive Answer where
  | close (code : Nat)
  | silent
  | drop
  | invalid
  | ready
  deriving DecidableEq, Repr

/-- who waits for an identify permit -/
inductive Waiter where
  | shard (id : UInt32)
  | caller
  deriving DecidableEq, Repr

structure Setup where
  profile : ShardProfile
  sharding : ShardCount
  maxConcurrency : UInt32
  startupTimeout : Nat
  /-- window of a limiter that others use too -/
  sharedWindow : Option Nat
  script : List (UInt32 × List Answer)
  /-- whether the gateway refuses connections -/
  refuses : Bool
  /-- interval of the Hello; nothing if none is said -/
  interval : Option UInt64
  resumeUrl : Option String

inductive Step where
  | start (shards maxConcurrency : UInt32)
  | connect
  | send (shard : UInt32) (m : Message)
  | advance (ms : Nat)
  | shutdown
  | serverSend (shard : UInt32) (text : String)
  | serverClose (shard : UInt32) (code : Nat)
  | serverDrop (shard : UInt32)
  | takeEvents
  | takeFailures
  /-- waits for one event -/
  | awaitEvent (ms : Nat)
  | lastGrant (bucket : UInt32)
  | acquire (bucket : UInt32)
  | status (shard : UInt32)

inductive Reply where
  | nothing
  | done
  | failed (f : Fault)
  | pending
  | flag (yes : Bool)
  | event (shard : UInt32) (d : Dispatch)
  | timedOut
  | time (t : Option Nat)
  | status (s : Option Status)

/-- the gateway's side of a connection -/
structure Line where
  /-- the shard whose connection it is -/
  owner : UInt32
  /-- the shard the gateway knows it by -/
  known : Option UInt32
  /-- whether the shard still has its side -/
  up : Bool
  /-- whether the gateway still has its side -/
  serving : Bool
  /-- frames on their way to the shard -/
  inbound : List Frame
  /-- whether the gateway cut it -/
  cut : Bool

/-- what is noted down in one step -/
structure Notes where
  connects : List (Nat × String)
  identifies : List (Nat × ShardAddress)
  resumes : List (Nat × UInt32 × UInt64)
  frames : List (Nat × UInt32 × Message)
  closes : List (Nat × Option UInt32 × Closure)
  answers : List (Nat × Option Fault)
  /-- how starts ended -/
  started : List (Option Fault)
  /-- how many shutdowns ended -/
  stopped : Nat

def Notes.blank : Notes := ⟨[], [], [], [], [], [], [], 0⟩

structure World where
  now : Nat
  manager : Shardwire.Manager
  limiter : Limiter Waiter
  script : List (UInt32 × List Answer)
  refuses : Bool
  interval : Option UInt64
  resumeUrl : Option String
  /-- shards that wait for a connection -/
  dialling : List UInt32
  /-- connections, the newest first -/
  lines : List Line
  eventsTaken : Bool
  failuresTaken : Bool
  events : List (UInt32 × Dispatch)
  failures : List (UInt32 × Fault)
  tickets : Nat
  /-- when the caller's permit was granted -/
  callerGrant : Option Nat
  notes : Notes

def opening (s : Setup) : World where
  now := 0
  manager :=
    { Shardwire.Manager.new s.profile with
      sharding := s.sharding
      maxConcurrency := s.maxConcurrency
      startupTimeout := s.startupTimeout
      ownsLimiter := s.sharedWindow.isNone }
  limiter := .fresh (s.sharedWindow.getD Limiter.gatewayWindow)
  script := s.script
  refuses := s.refuses
  interval := s.interval
  resumeUrl := s.resumeUrl
  dialling := []
  lines := []
  eventsTaken := false
  failuresTaken := false
  events := []
  failures := []
  tickets := 0
  callerGrant := none
  notes := Notes.blank

/-! ## The gateway -/

/-- changes the newest connection that fits -/
def updateLine (fits : Line → Bool) (f : Line → Line) : List Line → List Line
  | [] => []
  | l :: rest => if fits l then f l :: rest else l :: updateLine fits f rest

/-- the connection a shard has -/
def isOf (id : UInt32) (l : Line) : Bool := l.owner == id && l.up

/-- puts a message on a line -/
def Line.push (m : Message) (l : Line) : Line := { l with inbound := l.inbound ++ [.ofMessage m] }

/-- data of a READY -/
def readyData (w : World) (address : ShardAddress) : Json :=
  Ready.toJson
    { version := 10
      sessionId := s!"session-{address.id.toNat}"
      resumeUrl := w.resumeUrl
      shard := some address
      user := .null
      guilds := [] }

/-- the next answer of a shard's script -/
def nextAnswer (id : UInt32) : List (UInt32 × List Answer) → Answer × List (UInt32 × List Answer)
  | [] => (.ready, [])
  | (k, answers) :: rest =>
    if k = id then
      match answers with
      | a :: more => (a, (k, more) :: rest)
      | [] => (.ready, (k, []) :: rest)
    else
      let r := nextAnswer id rest
      (r.1, (k, answers) :: r.2)

/-- an identify reaches the gateway -/
def onIdentify (id : UInt32) (address : ShardAddress) (w : World) : World :=
  let r := nextAnswer address.id w.script
  let respond (l : Line) : Line :=
    let l := { l with known := some address.id }
    match r.1 with
    | .close code => { l with inbound := l.inbound ++ [.close (some ⟨code, ""⟩)], serving := false }
    | .silent => l
    | .drop => { l with cut := true, serving := false }
    | .invalid => l.push (.invalidSession false)
    | .ready => l.push (.dispatch "READY" 1 (readyData w address))
  { w with
    script := r.2
    lines := updateLine (isOf id) respond w.lines
    notes := { w.notes with identifies := w.notes.identifies ++ [(w.now, address)] } }

/-- a resume reaches the gateway -/
def onResume (id : UInt32) (seq : UInt64) (w : World) : World :=
  { w with
    lines := updateLine (isOf id)
      (fun l => ({ l with known := some id }).push (.dispatch "RESUMED" (seq + 1) (.obj []))) w.lines
    notes := { w.notes with resumes := w.notes.resumes ++ [(w.now, id, seq)] } }

/-- a message of a shard reaches the gateway -/
def onMessage (id : UInt32) (m : Message) (w : World) : World :=
  match w.lines.find? (isOf id) with
  | none => w
  | some l =>
    if !l.serving then w
    else
      match m.op with
      | .heartbeat => { w with lines := updateLine (isOf id) (Line.push .heartbeatAck) w.lines }
      | .identify =>
        match m.identify?.bind (·.shard) with
        | some address => onIdentify id address w
        | none => w
      | .resume =>
        match m.resume? with
        | some p => onResume id p.seq w
        | none => w
      | _ => { w with notes := { w.notes with frames := w.notes.frames ++ [(w.now, l.known.getD id, m)] } }

/-- a connection opens -/
def takeUp (id : UInt32) (w : World) : World :=
  let hello := match w.interval with
    | some ms => [Frame.ofMessage (.hello ⟨ms⟩)]
    | none => []
  { w with lines := ⟨id, none, true, true, hello, false⟩ :: w.lines }

/-! ## The manager's acts -/

def performShard (id : UInt32) (w : World) : Shard.Act → World
  | .dial url =>
    { w with
      dialling := w.dialling ++ [id]
      notes := if w.refuses then w.notes else { w.notes with connects := w.notes.connects ++ [(w.now, url)] } }
  | .write m => onMessage id m w
  | .close c =>
    match w.lines.find? (isOf id) with
    | some l =>
      if l.serving then { w with notes := { w.notes with closes := w.notes.closes ++ [(w.now, l.known, c)] } } else w
    | none => w
  | .hangUp => { w with lines := updateLine (isOf id) (fun l => { l with up := false, inbound := [] }) w.lines }
  | .publish _ => w
  | .deliver d => { w with events := w.events ++ [(id, d)] }
  | .fail f => { w with failures := w.failures ++ [(id, f)] }
  | .enqueue =>
    match w.manager.task? id with
    | some t => { w with limiter := w.limiter.request t.bucket (.shard id) w.now }
    | none => w
  | .withdraw => { w with limiter := w.limiter.withdraw (.shard id) }
  | .answer ticket fault => { w with notes := { w.notes with answers := w.notes.answers ++ [(ticket, fault)] } }

def performAct (w : World) : Manager.Act → World
  | .shard id a => performShard id w a
  | .answer ticket fault =>
    { w with notes := { w.notes with answers := w.notes.answers ++ [(ticket, some fault)] } }
  | .started fault => { w with notes := { w.notes with started := w.notes.started ++ [fault] } }
  | .clear => { w with limiter := w.limiter.clear }
  | .stopped => { w with notes := { w.notes with stopped := w.notes.stopped + 1 } }

/-- something happens to the manager -/
def strike (x : Manager.Stimulus) (w : World) : World :=
  let t := w.manager.stepClocked w.now x
  t.acts.foldl performAct { w with manager := t.manager }

/-! ## What happens by itself -/

/-- the longest first delay -/
def longestDraw (s : String) : Nat :=
  match Event.decode s with
  | .ok (.hello p) => p.interval.toNat - 1
  | _ => 0

/-- the gateway takes up the connection of the shard that waited longest -/
def connection? (w : World) : Option World :=
  match w.dialling with
  | [] => none
  | id :: rest =>
    let w := { w with dialling := rest }
    some (if w.refuses then strike (.shard id .refused) w else strike (.shard id .opened) (takeUp id w))

/-- a frame, or the end of a line, reaches a shard; older connections come first -/
def inbound? (w : World) : Option World :=
  match w.lines.reverse.find? fun l => l.up && (!l.inbound.isEmpty || l.cut) with
  | none => none
  | some l =>
    match l.inbound with
    | f :: rest =>
      let w := { w with lines := updateLine (isOf l.owner) (fun l => { l with inbound := rest }) w.lines }
      some (strike (.shard l.owner (match f with
        | .text s => .text s (longestDraw s)
        | .close c => .closed c)) w)
    | [] => some (strike (.shard l.owner .dropped) w)

/-- permits are granted -/
def grant? (w : World) : Option World :=
  match w.limiter.settle w.now with
  | ([], _) => none
  | (grants, limiter) =>
    some (grants.foldl (fun w g => match g.ticket with
      | .shard id => strike (.shard id .granted) w
      | .caller => { w with callerGrant := some g.time }) { w with limiter := limiter })

def isDue (w : World) (t : Option Nat) : Bool := t.any fun t => t ≤ w.now

/-- what a shard does when nothing reaches it -/
def urge? (w : World) (s : Shardwire.Shard) : Option Shard.Stimulus :=
  if s.hasCommand then some .take
  else if s.isZombie then some .missed
  else if isDue w s.beatDue? then some .beat
  else if isDue w s.timeoutDue? then some .timeout
  else none

/-- the first shard that does something by itself -/
def urge (w : World) : List Manager.Task → Option World
  | [] => none
  | t :: rest =>
    match urge? w t.shard with
    | some x => some (strike (.shard t.shard.id x) w)
    | none => urge w rest

def react? (w : World) : Option World :=
  match w.manager.lanesDue w.now with
  | b :: _ => some (strike (.lane b) w)
  | [] =>
    if w.manager.mayTakeLeave w.now then some (strike .farewell w)
    else connection? w <|> inbound? w <|> grant? w <|> urge w w.manager.tasks

def next? (w : World) : Option Nat :=
  let shards := w.manager.tasks.flatMap fun t => [t.shard.beatDue?, t.shard.timeoutDue?]
  let ends := w.manager.farewells.map fun f => some f.deadline
  ([w.limiter.nextDue?, w.manager.startup.map (·.deadline)] ++ ends ++ shards).filterMap (fun t => t) |>.min?

def stage : Stage World where
  now := (·.now)
  moveTo := fun t w => { w with now := t }
  react? := react?
  next? := next?

/-! ## Steps -/

/-- the newest connection known by a shard, if the gateway can still send on it -/
def sendable (w : World) (shard : UInt32) : Bool :=
  match w.lines.find? fun l => l.known == some shard with
  | some l => l.up && l.serving
  | none => false

def onKnown (shard : UInt32) (f : Line → Line) (w : World) : World :=
  { w with lines := updateLine (fun l => l.known == some shard) f w.lines }

/-- plays until a start is over -/
def awaitStart (w : World) : Reply × World :=
  let w := stage.await (fun w => !w.notes.started.isEmpty) w
  (match w.notes.started with
    | none :: _ => .done
    | some f :: _ => .failed f
    | [] => .pending, w)

/-- something the script does to a line, if it is still there -/
def onLine (w : World) (shard : UInt32) (f : Line → Line) : Reply × World :=
  if sendable w shard then (.flag true, stage.settle (onKnown shard f w)) else (.flag false, w)

def perform (w : World) : Step → Reply × World
  | .start shards maxConcurrency =>
    let r := awaitStart (strike (.start shards maxConcurrency) w)
    (r.1, stage.settle r.2)
  | .connect =>
    let r := awaitStart (strike (.connect .unreachable) w)
    (r.1, stage.settle r.2)
  | .send shard m =>
    let ticket := w.tickets
    let w := stage.settle (strike (.submit shard ticket m) { w with tickets := ticket + 1 })
    match w.notes.answers.find? fun a => a.1 == ticket with
    | some (_, none) => (.done, w)
    | some (_, some f) => (.failed f, w)
    | none => (.pending, w)
  | .advance ms => (.nothing, stage.advance ms w)
  | .shutdown => (.nothing, stage.settle (stage.await (fun w => w.notes.stopped != 0) (strike .shutdown w)))
  | .serverSend shard text => onLine w shard fun l => { l with inbound := l.inbound ++ [.text text] }
  | .serverClose shard code =>
    onLine w shard fun l => { l with inbound := l.inbound ++ [.close (some ⟨code, ""⟩)], serving := false }
  | .serverDrop shard => onLine w shard fun l => { l with cut := true, serving := false }
  | .takeEvents => (.flag !w.eventsTaken, { w with eventsTaken := true })
  | .takeFailures => (.flag !w.failuresTaken, { w with failuresTaken := true })
  | .awaitEvent ms =>
    if !w.eventsTaken then (.nothing, w)
    else
      let w := stage.playUntil (fun w => !w.events.isEmpty) (w.now + ms) w
      match w.events with
      | e :: rest => (.event e.1 e.2, stage.settle { w with events := rest })
      | [] => (.timedOut, w)
  | .lastGrant bucket => (.time (w.limiter.last? bucket), w)
  | .acquire bucket =>
    let w := stage.await (fun w => w.callerGrant.isSome)
      { w with callerGrant := none, limiter := w.limiter.request bucket .caller w.now }
    (.time w.callerGrant, stage.settle w)
  | .status shard => (.status (w.manager.status? shard), w)

structure Entry where
  reply : Reply
  world : World
  /-- events taken in this step, by shard -/
  events : List (UInt32 × Dispatch)
  /-- failures taken in this step, by shard -/
  failures : List (UInt32 × Fault)

def byShard {α : Type} (items : List (UInt32 × α)) : List (UInt32 × α) := items.mergeSort fun a b => a.1 ≤ b.1

/-- in the order of time, and at one time in the order of shards -/
def inOrder {α : Type} (time shard : α → Nat) (items : List α) : List α :=
  items.mergeSort fun a b => time a < time b || (time a == time b && shard a ≤ shard b)

/-- the notes in the order they are reported in; what no shard is known of comes first -/
def Notes.sorted (n : Notes) : Notes :=
  { n with
    identifies := inOrder (·.1) (fun i => i.2.id.toNat) n.identifies
    resumes := inOrder (·.1) (fun r => r.2.1.toNat) n.resumes
    frames := inOrder (·.1) (fun f => f.2.1.toNat) n.frames
    closes := inOrder (·.1) (fun c => (c.2.1.map fun i => i.toNat + 1).getD 0) n.closes }

/-- takes what has arrived since the last step, once the streams are taken -/
def collect (reply : Reply) (w : World) : Entry × World :=
  (⟨reply, { w with notes := w.notes.sorted }, if w.eventsTaken then byShard w.events else [], if w.failuresTaken then byShard w.failures else []⟩,
    { w with
      events := if w.eventsTaken then [] else w.events
      failures := if w.failuresTaken then [] else w.failures
      notes := Notes.blank })

def play (w : World) : List Step → List Entry
  | [] => []
  | s :: rest =>
    let r := perform w s
    let c := collect r.1 r.2
    c.1 :: play c.2 rest

def run (s : Setup) (steps : List Step) : List Entry := play (opening s) steps

end Shardwire.Rehearsal.Manager
