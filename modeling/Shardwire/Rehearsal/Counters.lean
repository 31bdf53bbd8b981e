import Shardwire.Backoff
import Shardwire.Session

/-
Rehearsals of the parts that only count: the backoff and the sequence number.
-/

namespace Shardwire.Rehearsal

/-- the delay given, if one was asked for, and the backoff afterwards -/
def playBackoff (b : Backoff.Fixed) : List Backoff.Call → List (Option (Option Span) × Backoff.Fixed)
  | [] => []
  | call :: rest => b.answer call :: playBackoff (b.answer call).2 rest

inductive SequenceStep where
  | advance (n : UInt64)
  | reset
  | get

/-- whether the number was newer, if one was offered, and the sequence afterwards -/
def playSequence (s : Sequence) : List SequenceStep → List (Option Bool × Sequence)
  | [] => []
  | .advance n :: rest =>
    match s.advance? n with
    | some s => (some true, s) :: playSequence s rest
    | none => (some false, s) :: playSequence s rest
  | .reset :: rest => (none, none) :: playSequence none rest
  | .get :: rest => (none, s) :: playSequence s rest

end Shardwire.Rehearsal
