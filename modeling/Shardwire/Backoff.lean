import Shardwire.Span

/-
Backoff: ever longer delays between attempts, and a limit on how many there are.

The first delay is the base, each further one twice the one before, up to a ceiling; the factor stays within a 32-bit
word. Once the limit is reached there are no more delays until a reset.

`Backoff` counts in exact numbers, with delays in milliseconds. `Backoff.Fixed` is the same in words of fixed width: the
factor is a power that stops at the largest word, and a product that cannot be kept is the longest span.

`next?_eq_none`: there is no further delay exactly when the limit is reached.
-/

namespace Shardwire

structure Backoff where
  base : Nat
  ceiling : Nat
  limit : Nat
  /-- delays given since the last reset -/
  attempts : Nat
  deriving DecidableEq, Repr

namespace Backoff

def fresh (base ceiling limit : Nat) : Backoff := ⟨base, ceiling, limit, 0⟩

/-- the largest factor -/
def topFactor : Nat := Nat.pow 2 32 - 1

/-- what the base is multiplied with after `k` delays -/
def factor (k : Nat) : Nat := if k < 32 then Nat.pow 2 k else topFactor

/-- the delay after `k` delays -/
def delay (b : Backoff) (k : Nat) : Nat := min (b.base * factor k) b.ceiling

/-- the next delay, and what is left after it -/
def next? (b : Backoff) : Option (Nat × Backoff) :=
  if b.attempts < b.limit then some (b.delay b.attempts, { b with attempts := b.attempts + 1 }) else none

def reset (b : Backoff) : Backoff := { b with attempts := 0 }

theorem next?_eq_none (b : Backoff) : b.next? = none ↔ b.limit ≤ b.attempts := by
  unfold next?
  split <;> simp <;> omega

/-! ## In words of fixed width -/

structure Fixed where
  base : Span
  ceiling : Span
  limit : UInt32
  /-- delays given since the last reset -/
  attempts : UInt32
  deriving DecidableEq

/-- what is asked of a backoff -/
inductive Call where
  | next
  | reset
  deriving DecidableEq, Repr

namespace Fixed

def fresh (base ceiling : Span) (limit : UInt32) : Fixed := ⟨base, ceiling, limit, 0⟩

def default : Fixed := fresh (.ofMillis 1000) (.ofMillis 60000) 10

/-- the delay after as many as were given -/
def delay (b : Fixed) : Span := min (b.base.times (Word.power 2 b.attempts)) b.ceiling

/-- the next delay, and what is left after it -/
def next? (b : Fixed) : Option (Span × Fixed) :=
  if b.limit ≤ b.attempts then none else some (b.delay, { b with attempts := b.attempts + 1 })

def reset (b : Fixed) : Fixed := { b with attempts := 0 }

/-- the delay given, if one was asked for and there is one, and the backoff afterwards -/
def answer (b : Fixed) : Call → Option (Option Span) × Fixed
  | .next =>
    match b.next? with
    | some (delay, b) => (some (some delay), b)
    | none => (some none, b)
  | .reset => (none, b.reset)

end Fixed

end Backoff

end Shardwire
