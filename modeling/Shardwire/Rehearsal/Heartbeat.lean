import Shardwire.Heartbeat
import Shardwire.Rehearsal.Stage

/-
Rehearsals of the heartbeat: of the pulse alone, and of a beater with a queue that someone reads.
-/

namespace Shardwire.Rehearsal.Heartbeat

/-! ## Pulse -/

inductive PulseStep where
  | sent
  | ack
  | advance (ms : Nat)

structure PulseEntry where
  time : Nat
  /-- what an acknowledgement reported -/
  reply : Option Nat
  pulse : Pulse

def playPulse (now : Nat) (p : Pulse) : List PulseStep → List PulseEntry
  | [] => []
  | .sent :: rest => ⟨now, none, p.sent now⟩ :: playPulse now (p.sent now) rest
  | .ack :: rest => ⟨now, (p.acked now).latency, p.acked now⟩ :: playPulse now (p.acked now) rest
  | .advance ms :: rest => ⟨now + ms, none, p⟩ :: playPulse (now + ms) p rest

/-! ## Beater -/

/-- how the beater is set up, and who reads its queue -/
structure Setup where
  interval : Nat
  firstDelay : Nat
  /-- every heartbeat is acknowledged when it is read -/
  autoAck : Bool
  /-- nobody reads the queue except on request -/
  manual : Bool
  capacity : Nat

inductive Step where
  | advance (ms : Nat)
  | ack
  | sequence (n : UInt64)
  | resetSequence
  /-- reads one heartbeat -/
  | receive
  /-- the queue's reader goes away -/
  | closeQueue
  | stop

inductive Reply where
  | nothing
  | latency (ms : Option Nat)
  | advanced (yes : Bool)
  | empty
  deriving DecidableEq, Repr

structure World where
  setup : Setup
  now : Nat
  pulse : Pulse
  sequence : Sequence
  /-- nothing once it is stopped -/
  beater : Option Beater
  queue : List Sequence
  queueOpen : Bool
  zombie : Bool
  /-- heartbeats read in the present step, the newest first -/
  beats : List (Nat × Sequence)
  /-- when the reader saw the end of the queue, in the present step -/
  ends : List Nat
  /-- whether the reader saw it in any step -/
  sawEnd : Bool

def opening (setup : Setup) : World where
  setup := setup
  now := 0
  pulse := Pulse.fresh
  sequence := none
  beater := some (Beater.start setup.interval setup.firstDelay 0)
  queue := []
  queueOpen := true
  zombie := false
  beats := []
  ends := []
  sawEnd := false

def outlet (w : World) : Outlet :=
  if !w.queueOpen then .closed
  else if w.setup.manual && w.setup.capacity ≤ w.queue.length then .full
  else .free

/-- a heartbeat enters the queue; without manual reading it is read at once -/
def deliver (w : World) (seq : Sequence) : World :=
  if w.setup.manual then { w with queue := w.queue ++ [seq] }
  else
    { w with
      beats := (w.now, seq) :: w.beats
      pulse := if w.setup.autoAck then w.pulse.acked w.now else w.pulse }

/-- whether the beater has let go of the queue -/
def queueEnded (w : World) : Bool :=
  match w.beater with
  | some b => !b.isRunning
  | none => true

def react? (w : World) : Option World :=
  match w.beater with
  | some b =>
    match b.phase, outlet w with
    | .blocked _ _, .free =>
      let r := b.unblock
      let w := { w with beater := some r.1 }
      some (match r.2 with
        | some seq => deliver w seq
        | none => w)
    | .blocked _ _, .closed => some { w with beater := some b.cut }
    | _, o =>
      if b.due?.any fun t => t ≤ w.now then
        let r := b.beat w.pulse w.sequence o w.now
        let w := { w with beater := some r.beater, pulse := r.pulse, zombie := w.zombie || r.beater.phase == .missed }
        some (match r.sent with
          | some seq => deliver w seq
          | none => w)
      else endSeen? w
  | none => endSeen? w
where
  /-- the reader sees the end of the queue -/
  endSeen? (w : World) : Option World :=
    if queueEnded w && w.queueOpen && !w.setup.manual && !w.sawEnd then
      some { w with ends := w.ends ++ [w.now], sawEnd := true }
    else none

def stage : Stage World where
  now := (·.now)
  moveTo := fun t w => { w with now := t }
  react? := react?
  next? := fun w => w.beater.bind Beater.due?

def perform (w : World) : Step → Reply × World
  | .advance ms => (.nothing, stage.advance ms w)
  | .ack =>
    let p := w.pulse.acked w.now
    (.latency p.latency, { w with pulse := p })
  | .sequence n =>
    match w.sequence.advance? n with
    | some seq => (.advanced true, { w with sequence := seq })
    | none => (.advanced false, w)
  | .resetSequence => (.nothing, { w with sequence := none })
  | .receive =>
    match w.queue with
    | seq :: rest => (.nothing, stage.settle { w with queue := rest, beats := [(w.now, seq)] })
    | [] => (.empty, w)
  | .closeQueue => (.nothing, stage.settle { w with queueOpen := false, queue := [] })
  | .stop => (.nothing, stage.settle { w with beater := none })

/-- what is known of the zombie signal -/
inductive Signal where
  | pending
  | zombied
  /-- it will never come -/
  | closed
  deriving DecidableEq, Repr

def Signal.name : Signal → String
  | .pending => "pending"
  | .zombied => "zombied"
  | .closed => "closed"

def signal (w : World) : Signal := if w.zombie then .zombied else if queueEnded w then .closed else .pending

structure Entry where
  reply : Reply
  world : World

/-- heartbeats read in a step, in order -/
def Entry.beats (e : Entry) : List (Nat × Sequence) := e.world.beats.reverse

def play (w : World) : List Step → List Entry
  | [] => []
  | s :: rest =>
    let r := perform { w with beats := [], ends := [] } s
    ⟨r.1, r.2⟩ :: play r.2 rest

/-- the whole rehearsal, with what happens before the first step -/
def run (setup : Setup) (steps : List Step) : List Entry :=
  let w := stage.settle (opening setup)
  ⟨.nothing, w⟩ :: play w steps

end Shardwire.Rehearsal.Heartbeat
