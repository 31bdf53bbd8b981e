import Shardwire.Session

/-
Heartbeats: proof of life in both directions.

The beater of a connection beats once after a first delay and then once per interval. A beat that finds the one before
unacknowledged is not sent: the connection is taken for dead, and the beater ends. The pulse records what was sent and
acknowledged.

A beat goes to a queue. While the queue is full the beater waits with the beat in hand, already recorded as sent; a tick
that passes meanwhile comes as soon as the queue has room, and the next one a full interval after that. Times are in
milliseconds.
-/

namespace Shardwire

/-- what was sent and acknowledged on one connection -/
structure Pulse where
  /-- whether the last heartbeat is unacknowledged -/
  awaiting : Bool
  lastSent : Option Nat
  lastAck : Option Nat
  /-- round trip of the last acknowledged heartbeat -/
  latency : Option Nat
  deriving DecidableEq, Repr

namespace Pulse

def fresh : Pulse := ⟨false, none, none, none⟩

/-- a heartbeat goes out -/
def sent (p : Pulse) (now : Nat) : Pulse := { p with awaiting := true, lastSent := some now }

/-- an acknowledgement comes in -/
def acked (p : Pulse) (now : Nat) : Pulse :=
  { p with awaiting := false, lastAck := some now, latency := p.lastSent.map fun t => now - t }

end Pulse

/-- how a queue takes a frame -/
inductive Outlet where
  | free
  | full
  | closed
  deriving DecidableEq, Repr

inductive Beater.Phase where
  /-- until the first beat -/
  | starting (tick : Nat)
  | resting (tick : Nat)
  /-- with a beat in hand that the queue has no room for -/
  | blocked (tick : Nat) (seq : Sequence)
  /-- a heartbeat was not acknowledged in time -/
  | missed
  /-- the queue is gone -/
  | ended
  deriving DecidableEq, Repr

structure Beater where
  interval : Nat
  phase : Beater.Phase
  deriving DecidableEq, Repr

namespace Beater

/-- a random part of the interval, below the whole -/
def firstDelay (interval draw : Nat) : Nat := if interval = 0 then 0 else draw % interval

/-- starts beating; the interval is at least a millisecond -/
def start (interval firstDelay now : Nat) : Beater := ⟨max interval 1, .starting (now + firstDelay)⟩

/-- when the next beat is due -/
def due? (b : Beater) : Option Nat :=
  match b.phase with
  | .starting tick | .resting tick => some tick
  | _ => none

/-- whether it still beats -/
def isRunning (b : Beater) : Bool :=
  match b.phase with
  | .missed | .ended => false
  | _ => true

/-- how late a tick may come without moving the ones after it -/
def tolerance : Nat := 5

/-- the tick after a beat at `now` -/
def nextTick (b : Beater) (now : Nat) : Nat :=
  match b.phase with
  | .resting tick => if tick + tolerance < now then now + b.interval else tick + b.interval
  | _ => now + b.interval

/-- the beater after a tick, with the pulse, and the sequence number sent if a heartbeat went out -/
structure Beat where
  beater : Beater
  pulse : Pulse
  sent : Option Sequence

/-- a tick, if one is due -/
def beat (b : Beater) (p : Pulse) (seq : Sequence) (outlet : Outlet) (now : Nat) : Beat :=
  match b.due? with
  | none => ⟨b, p, none⟩
  | some tick =>
    if now < tick then ⟨b, p, none⟩
    else if p.awaiting then ⟨{ b with phase := .missed }, p, none⟩
    else
      match outlet with
      | .free => ⟨{ b with phase := .resting (b.nextTick now) }, p.sent now, some seq⟩
      | .full => ⟨{ b with phase := .blocked (b.nextTick now) seq }, p.sent now, none⟩
      | .closed => ⟨{ b with phase := .ended }, p.sent now, none⟩

/-- the queue has room again; the beat in hand goes out -/
def unblock (b : Beater) : Beater × Option Sequence :=
  match b.phase with
  | .blocked tick seq => ({ b with phase := .resting tick }, some seq)
  | _ => (b, none)

/-- the queue is gone; whoever waits for it notices -/
def cut (b : Beater) : Beater :=
  match b.phase with
  | .blocked _ _ => { b with phase := .ended }
  | _ => b

end Beater

end Shardwire
