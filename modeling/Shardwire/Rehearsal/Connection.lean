import Shardwire.Connection
import Shardwire.Fault
import Shardwire.Rehearsal.Stage

/-
A rehearsal of one connection, with a server that reads and never answers.
-/

namespace Shardwire.Rehearsal.Connection

inductive Step where
  | setStatus (s : Status)
  | setResuming (yes : Bool)
  | setDeadline (time : Option Nat)
  | ready
  | startHeartbeat (interval : Nat)
  | stopHeartbeat
  | sequence (n : UInt64)
  | ack
  | send (m : Message)
  | close (c : Closure)
  | advance (ms : Nat)
  /-- the server goes away -/
  | dropServer

inductive Reply where
  | nothing
  | sent
  | failed (f : Fault)
  | advanced (yes : Bool)
  | latency (ms : Option Nat)

structure World where
  now : Nat
  connection : Shardwire.Connection
  sequence : Sequence
  /-- frames of the present step -/
  frames : List Frame

def opening : World := ⟨0, .fresh 0, none, []⟩

/-- the longest first delay -/
def longestDraw (interval : Nat) : Nat := interval - 1

def react? (w : World) : Option World :=
  if w.connection.beatDue?.any fun t => t ≤ w.now then
    let r := w.connection.beat w.sequence w.now
    some { w with connection := r.1, frames := w.frames ++ r.2.map Frame.ofMessage }
  else none

def stage : Stage World where
  now := (·.now)
  moveTo := fun t w => { w with now := t }
  react? := react?
  next? := fun w => w.connection.beatDue?

def perform (w : World) : Step → Reply × World
  | .setStatus s => (.nothing, { w with connection := { w.connection with status := s } })
  | .setResuming yes => (.nothing, { w with connection := { w.connection with resuming := yes } })
  | .setDeadline time => (.nothing, { w with connection := { w.connection with deadline := time } })
  | .ready => (.nothing, { w with connection := w.connection.markReady w.now })
  | .startHeartbeat interval =>
    (.nothing, stage.settle
      { w with connection := w.connection.startHeartbeat interval (longestDraw interval) w.now })
  | .stopHeartbeat => (.nothing, { w with connection := w.connection.stopHeartbeat })
  | .sequence n =>
    match w.sequence.advance? n with
    | some seq => (.advanced true, { w with sequence := seq })
    | none => (.advanced false, w)
  | .ack =>
    let p := w.connection.pulse.acked w.now
    (.latency p.latency, { w with connection := { w.connection with pulse := p } })
  | .send m =>
    if w.connection.writable then (.sent, { w with frames := w.frames ++ [.ofMessage m] })
    else (.failed (.connectionLost .socketClosed), w)
  | .close c =>
    (.nothing, { w with
      connection := w.connection.closing
      frames := if w.connection.writable then w.frames ++ [.close (some c)] else w.frames })
  | .advance ms => (.nothing, stage.advance ms w)
  | .dropServer => (.nothing, { w with connection := { w.connection with writable := false } })

structure Entry where
  reply : Reply
  world : World

def play (w : World) : List Step → List Entry
  | [] => []
  | s :: rest =>
    let r := perform { w with frames := [] } s
    ⟨r.1, r.2⟩ :: play r.2 rest

/-- the whole rehearsal, with what is there before the first step -/
def run (steps : List Step) : List Entry := ⟨.nothing, opening⟩ :: play opening steps

end Shardwire.Rehearsal.Connection
