/-
Arithmetic of words that notices when a result does not fit.

A product or a sum that is no word is none (`product32?`, `product64?`, `sum64?`). A power is found by squaring: the
exponent is halved from step to step, and as soon as a product on the way is no word, the power is none either.
`power` stops at the largest word instead.

`word32?_eq_some`, `word32?_eq_none` and their likes for 64 bits say which numbers are words.
-/

namespace Shardwire.Word

/-- a number as a word of 32 bits -/
def word32? (n : Nat) : Option UInt32 := if n < UInt32.size then some (UInt32.ofNat n) else none

/-- a number as a word of 64 bits -/
def word64? (n : Nat) : Option UInt64 := if n < UInt64.size then some (UInt64.ofNat n) else none

def product32? (a b : UInt32) : Option UInt32 := word32? (a.toNat * b.toNat)

def product64? (a b : UInt64) : Option UInt64 := word64? (a.toNat * b.toNat)

def sum64? (a b : UInt64) : Option UInt64 := word64? (a.toNat + b.toNat)

/-- `acc` times `b` to the power `e` -/
def powerOnto? (acc b : UInt32) (e : Nat) : Option UInt32 :=
  if e = 0 then some acc
  else
    (if e % 2 = 1 then product32? acc b else some acc).bind fun acc =>
      if e = 1 then some acc else (product32? b b).bind fun b => powerOnto? acc b (e / 2)
termination_by e
decreasing_by omega

/-- the largest word -/
def top32 : UInt32 := 4294967295

/-- `b` to the power `e`, or the largest word if that is no word -/
def power (b e : UInt32) : UInt32 := (powerOnto? 1 b e.toNat).getD top32

/-! ## Numbers that are words -/

theorem word32?_toNat (a : UInt32) : word32? a.toNat = some a := by
  rw [word32?, if_pos a.toNat_lt, UInt32.ofNat_toNat]

theorem word32?_eq_some {n : Nat} {a : UInt32} : word32? n = some a ↔ a.toNat = n := by
  constructor
  · intro h
    unfold word32? at h
    split at h
    · next fits =>
      cases h
      exact UInt32.toNat_ofNat_of_lt' fits
    · cases h
  · rintro rfl
    exact word32?_toNat a

theorem word32?_eq_none {n : Nat} : word32? n = none ↔ UInt32.size ≤ n := by
  unfold word32?
  split <;> simp <;> omega

theorem word64?_eq_some {n : Nat} {a : UInt64} : word64? n = some a ↔ a.toNat = n := by
  constructor
  · intro h
    unfold word64? at h
    split at h
    · next fits =>
      cases h
      exact UInt64.toNat_ofNat_of_lt' fits
    · cases h
  · rintro rfl
    rw [word64?, if_pos a.toNat_lt, UInt64.ofNat_toNat]

theorem word64?_eq_none {n : Nat} : word64? n = none ↔ UInt64.size ≤ n := by
  unfold word64?
  split <;> simp <;> omega

end Shardwire.Word
