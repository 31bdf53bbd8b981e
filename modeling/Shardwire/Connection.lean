import Shardwire.Heartbeat
import Shardwire.Status
import Shardwire.Wire.Frame

/-
One open connection of a shard: its status, its heartbeat, and the time its handshake may take.

A frame is taken as long as there is a receiver for it. How many the receiver takes before anyone reads them is not told
here but by the outbox in front of the connection. Times are in milliseconds.
-/

namespace Shardwire

structure Connection where
  status : Status
  /-- whether a session is taken up again -/
  resuming : Bool
  openedAt : Nat
  readyAt : Option Nat
  /-- when an unfinished handshake is given up; nothing while it is not timed -/
  deadline : Option Nat
  pulse : Pulse
  beater : Option Beater
  /-- whether the receiver of its frames is still there, whether or not it takes them off -/
  writable : Bool
  deriving DecidableEq, Repr

namespace Connection

def fresh (now : Nat) : Connection := ⟨.awaitingHello, false, now, none, none, Pulse.fresh, none, true⟩

/-- announced heartbeat interval, while heartbeats run -/
def interval? (c : Connection) : Option Nat := c.beater.map (·.interval)

def markReady (c : Connection) (now : Nat) : Connection :=
  { c with readyAt := some now, deadline := none, status := .ready }

/-- starts heartbeats, in place of those that may already run -/
def startHeartbeat (c : Connection) (interval draw now : Nat) : Connection :=
  { c with beater := some (Beater.start interval (Beater.firstDelay interval draw) now) }

def stopHeartbeat (c : Connection) : Connection := { c with beater := none }

/-- what remains once a close frame is written -/
def closing (c : Connection) : Connection := { c.stopHeartbeat with status := .closing }

/-- how it takes a frame that nothing stands in the way of -/
def outlet (c : Connection) : Outlet := if c.writable then .free else .closed

/-- a tick of the heartbeat, and the messages it sends -/
def beat (c : Connection) (seq : Sequence) (now : Nat) : Connection × List Message :=
  match c.beater with
  | none => (c, [])
  | some b =>
    let r := b.beat c.pulse seq c.outlet now
    ({ c with beater := some r.beater, pulse := r.pulse },
      match r.sent with
      | some seq => [.heartbeat seq]
      | none => [])

/-- when the heartbeat has to be looked at -/
def beatDue? (c : Connection) : Option Nat := c.beater.bind Beater.due?

/-- whether a heartbeat was not acknowledged in time -/
def isZombie (c : Connection) : Bool := c.beater.any fun b => b.phase == .missed

end Connection

end Shardwire
