import Shardwire.Word

/-
Lengths of time as they are kept in words: whole seconds, and nanoseconds below a second.

Spans are compared second by second first. A span can be taken a number of times; where the product cannot be kept, it
is the longest span there is.

`total` is the span as one number of nanoseconds. `le_iff_total`, `total_min` and `total_times`: comparing and
multiplying do with spans what they do with their totals, up to the longest span.
-/

namespace Shardwire

structure Span where
  seconds : UInt64
  nanos : UInt32
  nanos_lt : nanos < 1000000000
  deriving DecidableEq

namespace Span

/-- in nanoseconds -/
def total (d : Span) : Nat := d.seconds.toNat * 1000000000 + d.nanos.toNat

/-- in whole milliseconds -/
def millis (d : Span) : Nat := d.total / 1000000

def longest : Span := ⟨18446744073709551615, 999999999, by decide⟩

instance : LE Span := ⟨fun a b => a.seconds < b.seconds ∨ a.seconds = b.seconds ∧ a.nanos ≤ b.nanos⟩

instance (a b : Span) : Decidable (a ≤ b) :=
  inferInstanceAs (Decidable (a.seconds < b.seconds ∨ a.seconds = b.seconds ∧ a.nanos ≤ b.nanos))

instance : Min Span := minOfLe

/-- what is left of some nanoseconds when the whole seconds are taken out -/
def rest (nanos : UInt64) : UInt32 := (nanos % 1000000000).toUInt32

theorem toNat_rest (nanos : UInt64) : (rest nanos).toNat = nanos.toNat % 1000000000 := by
  have small : nanos.toNat % 1000000000 < 2 ^ 32 :=
    Nat.lt_trans (Nat.mod_lt _ (by decide)) (by decide)
  rw [rest, UInt64.toNat_toUInt32, UInt64.toNat_mod]
  exact Nat.mod_eq_of_lt small

theorem rest_lt (nanos : UInt64) : rest nanos < 1000000000 := by
  rw [UInt32.lt_iff_toNat_lt, toNat_rest]
  exact Nat.mod_lt _ (by decide)

def ofMillis (ms : UInt64) : Span := ⟨ms / 1000, rest (ms % 1000 * 1000000), rest_lt _⟩

/-- `n` times as long, if that can be kept -/
def times? (d : Span) (n : UInt32) : Option Span :=
  let nanos := d.nanos.toUInt64 * n.toUInt64
  (Word.product64? d.seconds n.toUInt64).bind fun seconds =>
    (Word.sum64? seconds (nanos / 1000000000)).map fun seconds => ⟨seconds, rest nanos, rest_lt nanos⟩

/-- `n` times as long, or the longest span -/
def times (d : Span) (n : UInt32) : Span := (d.times? n).getD longest

/-! ## Totals -/

theorem total_longest : longest.total = UInt64.size * 1000000000 - 1 := by decide

theorem total_le_longest (d : Span) : d.total ≤ longest.total := by
  have seconds := d.seconds.toNat_lt
  have nanos := UInt32.lt_iff_toNat_lt.1 d.nanos_lt
  rw [total_longest, total]
  simp only [UInt32.reduceToNat] at nanos
  simp only [UInt64.size]
  omega

theorem total_inj {a b : Span} : a.total = b.total ↔ a = b := by
  constructor
  · intro h
    have ha := UInt32.lt_iff_toNat_lt.1 a.nanos_lt
    have hb := UInt32.lt_iff_toNat_lt.1 b.nanos_lt
    simp only [UInt32.reduceToNat] at ha hb
    unfold total at h
    have seconds : a.seconds = b.seconds := UInt64.toNat_inj.1 (by omega)
    have nanos : a.nanos = b.nanos := UInt32.toNat_inj.1 (by omega)
    cases a
    cases b
    cases seconds
    cases nanos
    rfl
  · exact congrArg total

theorem le_iff_total {a b : Span} : a ≤ b ↔ a.total ≤ b.total := by
  have ha := UInt32.lt_iff_toNat_lt.1 a.nanos_lt
  have hb := UInt32.lt_iff_toNat_lt.1 b.nanos_lt
  simp only [UInt32.reduceToNat] at ha hb
  show a.seconds < b.seconds ∨ a.seconds = b.seconds ∧ a.nanos ≤ b.nanos ↔ _
  rw [UInt64.lt_iff_toNat_lt, ← UInt64.toNat_inj, UInt32.le_iff_toNat_le, total, total]
  omega

theorem total_min (a b : Span) : (min a b).total = min a.total b.total := by
  show (if a ≤ b then a else b).total = _
  split
  · next le => exact (Nat.min_eq_left (le_iff_total.1 le)).symm
  · next gt =>
    rw [le_iff_total, Nat.not_le] at gt
    exact (Nat.min_eq_right (Nat.le_of_lt gt)).symm

theorem total_ofMillis (ms : UInt64) : (ofMillis ms).total = ms.toNat * 1000000 := by
  have part : (ms % 1000 * 1000000).toNat = ms.toNat % 1000 * 1000000 := by
    rw [UInt64.toNat_mul, UInt64.toNat_mod]
    simp only [UInt64.reduceToNat]
    omega
  rw [total, ofMillis, toNat_rest, part, UInt64.toNat_div]
  simp only [UInt64.reduceToNat]
  omega

/-- The nanoseconds of a product are a word: there are less than a second of them for each of 32 bits. -/
theorem toNat_nanos (d : Span) (n : UInt32) : (d.nanos.toUInt64 * n.toUInt64).toNat = d.nanos.toNat * n.toNat := by
  have nanos : d.nanos.toNat < 1000000000 := UInt32.lt_iff_toNat_lt.1 d.nanos_lt
  have factor : n.toNat < 2 ^ 32 := n.toNat_lt
  have fits : d.nanos.toNat * n.toNat < 2 ^ 64 :=
    calc d.nanos.toNat * n.toNat ≤ 1000000000 * 2 ^ 32 := Nat.mul_le_mul (Nat.le_of_lt nanos) (Nat.le_of_lt factor)
      _ < 2 ^ 64 := by decide
  rw [UInt64.toNat_mul, UInt32.toNat_toUInt64, UInt32.toNat_toUInt64]
  exact Nat.mod_eq_of_lt fits

/-- Whole seconds and the rest, each taken `n` times. -/
theorem total_mul (d : Span) (n : UInt32) :
    d.total * n.toNat =
      (d.seconds.toNat * n.toNat + d.nanos.toNat * n.toNat / 1000000000) * 1000000000 +
        d.nanos.toNat * n.toNat % 1000000000 := by
  rw [total, Nat.add_mul, Nat.mul_right_comm]
  omega

theorem times?_eq_some {d e : Span} {n : UInt32} (h : d.times? n = some e) : e.total = d.total * n.toNat := by
  obtain ⟨product, hproduct, h⟩ := Option.bind_eq_some_iff.1 h
  obtain ⟨seconds, hseconds, rfl⟩ := Option.map_eq_some_iff.1 h
  have product_eq : product.toNat = d.seconds.toNat * n.toNat := by
    rw [Word.word64?_eq_some.1 hproduct, UInt32.toNat_toUInt64]
  have seconds_eq : seconds.toNat = product.toNat + d.nanos.toNat * n.toNat / 1000000000 := by
    rw [Word.word64?_eq_some.1 hseconds, UInt64.toNat_div, toNat_nanos]
    rfl
  show seconds.toNat * 1000000000 + (rest _).toNat = _
  rw [toNat_rest, toNat_nanos, seconds_eq, product_eq, total_mul]

theorem times?_eq_none {d : Span} {n : UInt32} (h : d.times? n = none) : longest.total < d.total * n.toNat := by
  have beyond : 2 ^ 64 ≤ d.seconds.toNat * n.toNat + d.nanos.toNat * n.toNat / 1000000000 := by
    cases hproduct : Word.product64? d.seconds n.toUInt64 with
    | none =>
      have large := Word.word64?_eq_none.1 hproduct
      rw [UInt32.toNat_toUInt64] at large
      exact Nat.le_trans large (Nat.le_add_right _ _)
    | some product =>
      have product_eq : product.toNat = d.seconds.toNat * n.toNat := by
        rw [Word.word64?_eq_some.1 hproduct, UInt32.toNat_toUInt64]
      rw [times?, hproduct, Option.bind_some, Option.map_eq_none_iff] at h
      have large := Word.word64?_eq_none.1 h
      rw [UInt64.toNat_div, toNat_nanos, product_eq] at large
      exact large
  rw [total_mul, total_longest]
  simp only [UInt64.size]
  omega

theorem total_times (d : Span) (n : UInt32) : (d.times n).total = min (d.total * n.toNat) longest.total := by
  unfold times
  cases h : d.times? n with
  | none => exact (Nat.min_eq_right (Nat.le_of_lt (times?_eq_none h))).symm
  | some e =>
    have exact := times?_eq_some h
    rw [← exact]
    exact (Nat.min_eq_left (total_le_longest e)).symm

end Span

end Shardwire
