import Shardwire.Wire.Payload

/-
What a shard keeps of a session: its id, where to resume it, and the sequence number of the last event.

Sequence numbers only go up: `advance` takes a number that is greater than the last one and refuses any other.
-/

namespace Shardwire

/-- a session that can be resumed on a new connection -/
structure Session where
  id : String
  resumeUrl : Option String
  deriving DecidableEq, Repr

namespace Session

def ofReady (p : Ready) : Session := ⟨p.sessionId, p.resumeUrl⟩

/-- where to resume, or the address for new sessions -/
def urlOr (s : Session) (default : String) : String := s.resumeUrl.getD default

end Session

/-- sequence number of the last event of the session, if there was one -/
abbrev Sequence := Option UInt64

namespace Sequence

/-- the new sequence, if the number is newer -/
def advance? (s : Sequence) (n : UInt64) : Option Sequence :=
  match s with
  | none => some (some n)
  | some last => if last < n then some (some n) else none

end Sequence

end Shardwire
