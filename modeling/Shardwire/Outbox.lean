import Shardwire.Session

/-
The queue that takes the frames of a connection.

It has room for so many frames that the other side has not taken yet. While there is none, whoever has a frame waits,
and is served in order of arrival: each frame that is taken makes room for one.
-/

namespace Shardwire

/-- who waits for room -/
inductive Outbox.Waiter where
  /-- the shard itself -/
  | shard
  /-- its heartbeat, with a beat of this number in hand -/
  | beat (seq : Sequence)
  deriving DecidableEq, Repr

structure Outbox where
  /-- frames that were not taken yet -/
  queued : Nat
  /-- in order of arrival -/
  waiting : List Outbox.Waiter
  deriving DecidableEq, Repr

namespace Outbox

def capacity : Nat := 128

def empty : Outbox := ⟨0, []⟩

/-- whether a frame goes in at once -/
def hasRoom (o : Outbox) : Bool := o.queued < capacity && o.waiting.isEmpty

/-- frames go in -/
def put (n : Nat) (o : Outbox) : Outbox := { o with queued := o.queued + n }

/-- somebody joins those who wait -/
def await (w : Waiter) (o : Outbox) : Outbox := { o with waiting := o.waiting ++ [w] }

/-- whether a beat waits -/
def holdsBeat (o : Outbox) : Bool := o.waiting.any fun w => w != .shard

/-- the heartbeat waits no longer -/
def dropBeats (o : Outbox) : Outbox := { o with waiting := o.waiting.filter fun w => w == .shard }

/-- the other side takes a frame, and whoever waited longest is next -/
def taken (o : Outbox) : Outbox := ⟨o.queued - 1, o.waiting.tail⟩

end Outbox

end Shardwire
