import Shardwire.Rehearsal.Stage
import Shardwire.Shard.Runner

/-
A rehearsal of one shard against a gateway that follows a script.

The gateway's side of the newest connection is a line. The script sends frames on it, closes or cuts it; the only thing
the gateway does by itself is to take frames as they come and to acknowledge heartbeats. Everything the shard does is
noted down for the present step.

At one moment a connection opens first, then frames are received, permits granted and commands taken; heartbeats and
deadlines come last.
-/

namespace Shardwire.Rehearsal.Shard

/-- what becomes of an attempt to connect -/
inductive Dialling where
  | opens
  | refused
  | hangs
  | opensAfter (ms : Nat)
  deriving DecidableEq, Repr

/-- who waits for an identify permit -/
inductive Waiter where
  | shard
  | occupant (n : Nat)
  deriving DecidableEq, Repr

structure Setup where
  profile : ShardProfile
  address : ShardAddress
  bucket : UInt32
  window : Nat
  /-- others that queue for permits before the shard starts -/
  occupants : Nat
  dialling : Dialling
  /-- whether heartbeats are acknowledged -/
  acks : Bool
  /-- whether heartbeats are noted down -/
  showBeats : Bool

inductive Step where
  | send (text : String)
  /-- frames that are all sent before the shard receives any -/
  | burst (frames : List Frame)
  /-- a close frame; nothing is sent after it -/
  | close (c : Option Closure)
  /-- cuts the line -/
  | disconnect
  /-- the receiver of the shard's frames goes away -/
  | deafen
  | advance (ms : Nat)
  | dialling (d : Dialling)
  | acks (yes : Bool)
  | command (m : Message)
  /-- waits until the shard has come up or failed -/
  | awaitSettled (ms : Nat)
  | shutdown
  | dropHandle
  | dropEvents

inductive Reply where
  | nothing
  | queued (yes : Bool)
  | sent
  | refused (f : Fault)
  | pending
  | noHandle
  | settled (s : Status)
  | timedOut

/-- a frame of the shard, on the connection of a number -/
inductive Sent where
  | message (time conn : Nat) (m : Message)
  | closure (time conn : Nat) (c : Closure)

/-- what is noted down in one step -/
structure Notes where
  connects : List (Nat × String)
  frames : List Sent
  /-- connections the shard let go of -/
  ended : List (Nat × Nat)
  events : List Dispatch
  failures : List Fault
  answers : List (Nat × Option Fault)

def Notes.blank : Notes := ⟨[], [], [], [], [], []⟩

/-- the gateway's side of a connection -/
structure Line where
  /-- whether the shard still has its side -/
  up : Bool
  /-- whether the gateway may still send -/
  sending : Bool
  /-- whether the receiver of the shard's frames is there; it takes every frame at once -/
  reading : Bool
  /-- frames on their way to the shard -/
  inbound : List Frame

def Line.none : Line := ⟨false, false, false, []⟩

structure World where
  now : Nat
  runner : Runner
  bucket : UInt32
  limiter : Limiter Waiter
  /-- what becomes of later attempts to connect -/
  dialling : Dialling
  /-- when the connection asked for opens; nothing if it never does -/
  opensAt : Option Nat
  /-- whether the connection asked for is refused -/
  refusing : Bool
  /-- connections opened so far -/
  opened : Nat
  line : Line
  acks : Bool
  showBeats : Bool
  handle : Bool
  watched : Bool
  /-- commands submitted so far -/
  tickets : Nat
  notes : Notes

def World.shard (w : World) : Shardwire.Shard := w.runner.shard

/-- number of the newest connection -/
def World.conn (w : World) : Nat := w.opened - 1

/-- the longest first delay -/
def longestDraw : Event → Nat
  | .hello p => p.interval.toNat - 1
  | _ => 0

/-- notes down a frame of the shard; heartbeats only if they are shown -/
def noteMessage (m : Message) (w : World) : World :=
  if m.op = .heartbeat ∧ !w.showBeats then w
  else { w with notes := { w.notes with frames := w.notes.frames ++ [.message w.now w.conn m] } }

/-- the gateway acknowledges a heartbeat -/
def acknowledge (m : Message) (w : World) : World :=
  if m.op = .heartbeat ∧ w.acks ∧ w.line.up ∧ w.line.sending then
    { w with line := { w.line with inbound := w.line.inbound ++ [.ofMessage .heartbeatAck] } }
  else w

def performAct (w : World) : Shard.Act → World
  | .dial url =>
    let w := { w with notes := { w.notes with connects := w.notes.connects ++ [(w.now, url)] } }
    match w.dialling with
    | .opens => { w with opensAt := some w.now, refusing := false }
    | .refused => { w with opensAt := none, refusing := true }
    | .hangs => { w with opensAt := none, refusing := false }
    | .opensAfter ms => { w with opensAt := some (w.now + ms), refusing := false }
  | .write m => acknowledge m (noteMessage m w)
  | .close c => { w with notes := { w.notes with frames := w.notes.frames ++ [.closure w.now w.conn c] } }
  | .hangUp =>
    { w with
      notes := if w.line.reading then { w.notes with ended := w.notes.ended ++ [(w.now, w.conn)] } else w.notes
      line := { w.line with up := false, inbound := [] } }
  | .publish _ => w
  | .deliver d => if w.watched then { w with notes := { w.notes with events := w.notes.events ++ [d] } } else w
  | .fail f => { w with notes := { w.notes with failures := w.notes.failures ++ [f] } }
  | .enqueue => { w with limiter := w.limiter.request w.bucket .shard w.now }
  | .withdraw => { w with limiter := w.limiter.withdraw .shard }
  | .answer ticket fault => { w with notes := { w.notes with answers := w.notes.answers ++ [(ticket, fault)] } }

/-- the shard has done something -/
def enact (t : Runner.Turn) (w : World) : World := t.acts.foldl performAct { w with runner := t.runner }

/-- so many frames are taken out of the outbox -/
def drain : Nat → World → World
  | 0, w => w
  | n + 1, w => drain n (enact (w.runner.serve w.now) w)

/-- something happens to the shard, and the gateway takes what it sends -/
def strike (x : Shard.Stimulus) (w : World) : World :=
  let w := enact (w.runner.meet w.now x) w
  drain w.runner.outbox.queued w

/-- whether the shard waits for a connection -/
def isDialling (w : World) : Bool :=
  match w.shard.phase with
  | .dialling _ _ => true
  | _ => false

/-- a frame reaches the shard -/
def receive (f : Frame) (w : World) : World :=
  match f with
  | .text s => strike (.text s (match Event.decode s with
      | .ok e => longestDraw e
      | .error _ => 0)) w
  | .close c => strike (.closed c) w

/-- permits are granted -/
def grant? (w : World) : Option World :=
  match w.limiter.settle w.now with
  | ([], _) => none
  | (grants, limiter) =>
    let w := { w with limiter := limiter }
    some (if grants.any fun g => g.ticket == .shard then strike .granted w else w)

/-- whether a moment has come -/
def isDue (w : World) (t : Option Nat) : Bool := t.any fun t => t ≤ w.now

def react? (w : World) : Option World :=
  if isDialling w && w.refusing then some (strike .refused { w with refusing := false })
  else if isDialling w && isDue w w.opensAt then
    some (strike .opened { w with opensAt := none, opened := w.opened + 1, line := ⟨true, true, true, []⟩ })
  else
    match w.line.inbound with
    | f :: rest => some (receive f { w with line := { w.line with inbound := rest } })
    | [] =>
      match grant? w with
      | some w => some w
      | none =>
        if w.shard.hasCommand then some (strike .take w)
        else if w.shard.isZombie then some (strike .missed w)
        else if isDue w w.runner.beatDue? then some (strike .beat w)
        else if isDue w w.runner.timeoutDue? then some (strike .timeout w)
        else none

def next? (w : World) : Option Nat :=
  [if isDialling w then w.opensAt else none, w.limiter.nextDue?, w.runner.beatDue?, w.runner.timeoutDue?].filterMap
    (fun t => t) |>.min?

def stage : Stage World where
  now := (·.now)
  moveTo := fun t w => { w with now := t }
  react? := react?
  next? := next?

def opening (s : Setup) : World :=
  let limiter : Limiter Waiter := (List.range s.occupants).foldl
    (fun l n => l.request s.bucket (.occupant n) 0) (.fresh s.window)
  let w : World :=
    { now := 0
      runner := .idle (.fresh s.profile s.address 0)
      bucket := s.bucket
      limiter := limiter
      dialling := s.dialling
      opensAt := none
      refusing := false
      opened := 0
      line := Line.none
      acks := s.acks
      showBeats := s.showBeats
      handle := true
      watched := true
      tickets := 0
      notes := Notes.blank }
  stage.settle w

/-- whether the script can send on the newest connection -/
def canSend (w : World) : Bool := w.line.up && w.line.sending

/-- a frame is put on the line -/
def queueFrame (f : Frame) (w : World) : World :=
  { w with line := { w.line with inbound := w.line.inbound ++ [f] } }

def perform (w : World) : Step → Reply × World
  | .send text =>
    (.queued (canSend w), stage.settle (if canSend w then queueFrame (.text text) w else w))
  | .burst frames =>
    (.nothing, stage.settle (if canSend w then
      { w with line := { w.line with
          inbound := w.line.inbound ++ frames
          sending := frames.all fun f => match f with
            | .text _ => true
            | .close _ => false } }
      else w))
  | .close c =>
    (.queued (canSend w), stage.settle (if canSend w then
      let w := queueFrame (.close c) w
      { w with line := { w.line with sending := false } }
      else w))
  | .disconnect =>
    let up := w.line.up
    let w := { w with line := { w.line with sending := false, reading := false } }
    (.nothing, stage.settle (if up then strike .dropped w else w))
  | .deafen =>
    let up := w.line.up
    let w := { w with line := { w.line with reading := false } }
    (.nothing, stage.settle (if up then strike .receiverGone w else w))
  | .advance ms => (.nothing, stage.advance ms w)
  | .dialling d => (.nothing, { w with dialling := d })
  | .acks yes => (.nothing, { w with acks := yes })
  | .command m =>
    if w.handle then
      let ticket := w.tickets
      let w := stage.settle (strike (.submit ticket m) { w with tickets := ticket + 1 })
      match w.notes.answers.find? fun a => a.1 == ticket with
      | some (_, none) => (.sent, w)
      | some (_, some f) => (.refused f, w)
      | none => (.pending, w)
    else (.noHandle, w)
  | .awaitSettled ms =>
    if w.handle then
      let w := stage.playUntil (fun w => w.shard.isSettled) (w.now + ms) w
      if w.shard.isSettled then (.settled w.shard.status, w) else (.timedOut, w)
    else (.noHandle, w)
  | .shutdown =>
    if w.handle then
      let w := stage.playUntil (fun w => w.shard.isEnded) (w.now + 5000) (strike .stop w)
      let w := if w.shard.isEnded then w else strike .abort w
      (.nothing, stage.settle (strike .abandon { w with handle := false }))
    else (.nothing, w)
  | .dropHandle => (.nothing, stage.settle (strike .abandon { w with handle := false }))
  | .dropEvents => (.nothing, { w with watched := false })

structure Entry where
  reply : Reply
  world : World

def play (w : World) : List Step → List Entry
  | [] => []
  | s :: rest =>
    let r := perform { w with notes := Notes.blank } s
    ⟨r.1, r.2⟩ :: play r.2 rest

/-- the whole rehearsal, with what happens before the first step -/
def run (s : Setup) (steps : List Step) : List Entry :=
  let w := opening s
  ⟨.nothing, w⟩ :: play w steps

end Shardwire.Rehearsal.Shard
