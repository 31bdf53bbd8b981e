/-
Binary64 numbers and how a decimal numeral becomes one.

A number is kept by its 64 bits, so equality of numbers is equality of bits and minus zero differs from zero. A numeral
is read in two steps: its significand, a 64-bit word, goes to the nearest number, and that is multiplied or divided by
one power of ten. Both steps round, so a numeral of many digits may end one unit away from the number nearest to it.
Powers beyond the largest finite one are refused upwards and taken in parts downwards.
-/

namespace Shardwire

/-- a binary64 number, by its bits -/
structure Double where
  bits : UInt64
  deriving DecidableEq, Repr

namespace Double

/-- the largest power of ten that is a finite number -/
def topPower : Nat := 308

def powerOfTen (k : Nat) : Float :=
  Float.ofScientific 1 false k

/-- scale by a power of ten; three parts take every 64-bit word down to zero -/
def scale : Nat → Float → Int → Option Float
  | 0, x, _ => some x
  | n + 1, x, e =>
    if e.natAbs ≤ topPower then
      if 0 ≤ e then
        let y := x * powerOfTen e.natAbs
        if y.isInf then none else some y
      else some (x / powerOfTen e.natAbs)
    else if x == 0 then some x
    else if 0 ≤ e then none
    else scale n (x / powerOfTen topPower) (e + topPower)

/-- the number of a significand and a power of ten, if it is finite -/
def ofDecimal (negative : Bool) (significand : Nat) (exponent : Int) : Option Double :=
  (scale 4 (UInt64.ofNat significand).toFloat exponent).map fun x =>
    ⟨(if negative then -x else x).toBits⟩

def isNegative (d : Double) : Bool :=
  d.bits >>> 63 == 1

def biasedExponent (d : Double) : Nat :=
  ((d.bits >>> 52) &&& 0x7FF).toNat

def fraction (d : Double) : Nat :=
  (d.bits &&& 0xFFFFFFFFFFFFF).toNat

def isZero (d : Double) : Bool :=
  d.biasedExponent == 0 && d.fraction == 0

/-- integral significand `m` of the magnitude `m * 2 ^ q` -/
def significand (d : Double) : Nat :=
  if d.biasedExponent = 0 then d.fraction else d.fraction + Nat.pow 2 52

/-- binary exponent `q` of the magnitude `m * 2 ^ q` -/
def exponent (d : Double) : Int :=
  if d.biasedExponent = 0 then -1074 else (d.biasedExponent : Int) - 1075

/-- whether the number below is half as far away as the number above -/
def isBinadeStart (d : Double) : Bool :=
  d.fraction == 0 && 1 < d.biasedExponent

end Double

end Shardwire
