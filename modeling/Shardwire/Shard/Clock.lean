import Shardwire.Instant
import Shardwire.Shard.Step

/-
A shard on a clock that ends.

When a connection is asked for, and when the client's part of a handshake has been written, a time begins whose end the
shard works out at once. A clock shows no reading from `Instant.limit` on. If the end lies there, the shard breaks off
in the middle of what it does: it says nothing about it, and leaves its connection, its calls and its callers behind as
if it was stopped by force.
-/

namespace Shardwire.Shard

/-- whether the time of a handshake that begins now has no end that a clock could show -/
def outlasts (now : Nat) (s : Shard) : Bool := Instant.limit ≤ now + s.profile.identifyTimeout

/-- whether the time of a handshake begins with an act -/
def Act.isTimed : Act → Bool
  | .dial _ => true
  | .write m => m.op.isHandshake
  | _ => false

/-- whether the time of a handshake begins; whatever begins it is done last -/
def Turn.isTimed (t : Turn) : Bool := t.acts.getLast?.any Act.isTimed

/-- the steps that a stimulus leads to on a clock that ends; the end of the time for a connection is worked out before
the connection is asked for -/
def clocked (now : Nat) (x : Stimulus) (s : Shard) : List Stimulus :=
  if (s.step now x).isTimed && s.outlasts now then if s.isOnline then [x, .abort] else [.abort] else [x]

/-- one step after the other -/
def steps (now : Nat) (xs : List Stimulus) (s : Shard) : Turn := xs.foldl (fun t x => t.next (step now x)) (.still s)

/-- a step on a clock that ends -/
def stepClocked (now : Nat) (x : Stimulus) (s : Shard) : Turn := s.steps now (s.clocked now x)

end Shardwire.Shard
