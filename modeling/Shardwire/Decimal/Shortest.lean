import Shardwire.Decimal.Double

/-
The shortest decimal that reads back, and its text.

The reals that round to a number `m * 2 ^ q` form an interval around it, ends included iff `m` is even. For one digit,
two digits, and so on up to seventeen, the two neighbours of the number on the grid of that many digits are tried, in
exact arithmetic; the first grid with a neighbour inside the interval gives the digits, and of two the nearer one is
taken, in a tie the one that ends in an even digit. `NumberText` says how digits and exponent are laid out.
-/

namespace Shardwire

/-- an unsigned decimal `digits * 10 ^ (leading - (digits.length - 1))` -/
structure Decimal where
  /-- significant digits, the first of them not zero -/
  digits : List Char
  /-- power of ten of the first digit -/
  leading : Int
  deriving DecidableEq, Repr

namespace Decimal

/-- `x * 10 ^ e` as a numerator or a denominator: the part of a power of ten that multiplies -/
def up (e : Int) : Nat := Nat.pow 10 e.toNat

/-- a magnitude with the half-way points to its neighbours, all over one denominator -/
structure Window where
  low : Nat
  value : Nat
  high : Nat
  den : Nat
  closed : Bool

/-- the reals that round to a number -/
def Window.of (d : Double) : Window :=
  let m := d.significand
  let unit := Nat.pow 2 (d.exponent - 2).toNat
  { low := (4 * m - if d.isBinadeStart then 1 else 2) * unit
    value := 4 * m * unit
    high := (4 * m + 2) * unit
    den := Nat.pow 2 (2 - d.exponent).toNat
    closed := m % 2 == 0 }

/-- whether `n * 10 ^ p` rounds to the number of the window -/
def Window.holds (w : Window) (n : Nat) (p : Int) : Bool :=
  let x := n * up p * w.den
  let s := up (-p)
  if w.closed then w.low * s ≤ x && x ≤ w.high * s else w.low * s < x && x < w.high * s

/-- raise the exponent while the next power of ten still does not exceed the value -/
def Window.climb (w : Window) : Nat → Int → Int
  | 0, e => e
  | n + 1, e => if up (e + 1) * w.den ≤ w.value * up (-(e + 1)) then w.climb n (e + 1) else e

/-- the power of ten of the first digit of the value -/
def Window.leading (w : Window) : Int :=
  let guess : Int := (((w.value.log2 : Int) - (w.den.log2 : Int)) * 30103).fdiv 100000 - 2
  w.climb 6 guess

/-- the neighbour of the value on the grid of `10 ^ p` that reads back, if there is one -/
def Window.pick? (w : Window) (p : Int) : Option Nat :=
  let scaled := w.value * up (-p)
  let cell := w.den * up p
  let below := scaled / cell
  match w.holds below p, w.holds (below + 1) p with
  | true, true =>
    let twice := 2 * (scaled % cell)
    if twice < cell ∨ (twice = cell ∧ below % 2 = 0) then some below else some (below + 1)
  | true, false => some below
  | false, true => some (below + 1)
  | false, false => none

/-- try grids of ever more digits -/
def Window.shortest (w : Window) (e : Int) : Nat → Nat → Nat × Int
  | 0, _ => (w.value * up (-e) / (w.den * up e), e)
  | n + 1, k =>
    let p := e - k
    match w.pick? p with
    | some d => (d, p)
    | none => w.shortest e n (k + 1)

/-- drop zeros at the end -/
def trimZeros (ds : List Char) : List Char :=
  (ds.reverse.dropWhile (· == '0')).reverse

/-- the shortest decimal that reads back as the magnitude of a number other than zero -/
def ofDouble (d : Double) : Decimal :=
  let w := Window.of d
  let (n, p) := w.shortest w.leading 17 0
  let ds := Nat.toDigits 10 n
  { digits := trimZeros ds, leading := p + (ds.length - 1 : Nat) }

end Decimal

/-- layout of a number: where positional notation begins and ends -/
structure NumberText where
  /-- least power of ten of the first digit that is written positionally -/
  least : Int
  /-- power of ten of the first digit from which on it is not -/
  limit : Int

namespace NumberText

/-- positional digits, with at least one digit after the point -/
def positional (x : Decimal) : String :=
  if 0 ≤ x.leading then
    let whole := x.leading.toNat + 1
    if x.digits.length ≤ whole then
      String.ofList (x.digits ++ List.replicate (whole - x.digits.length) '0') ++ ".0"
    else String.ofList (x.digits.take whole) ++ "." ++ String.ofList (x.digits.drop whole)
  else "0." ++ String.ofList (List.replicate (-x.leading - 1).toNat '0' ++ x.digits)

/-- one digit, the others after a point, and a signed exponent -/
def scientific (x : Decimal) : String :=
  let mantissa := match x.digits with
    | [] => "0"
    | [d] => String.ofList [d]
    | d :: ds => String.ofList [d] ++ "." ++ String.ofList ds
  mantissa ++ (if 0 ≤ x.leading then "e+" else "e-") ++ toString x.leading.natAbs

def render (style : NumberText) (d : Double) : String :=
  let sign := if d.isNegative then "-" else ""
  if d.isZero then sign ++ "0.0"
  else
    let x := Decimal.ofDouble d
    sign ++ if style.least ≤ x.leading ∧ x.leading < style.limit then positional x else scientific x

end NumberText

end Shardwire
