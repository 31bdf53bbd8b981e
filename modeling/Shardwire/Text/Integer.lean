/-
Reading unsigned decimal integers of a fixed width.

An optional plus sign, then one or more ASCII digits whose value does not exceed the limit. The digits are looked at
from the left and the first fault decides: a character that is no digit, or the first digit that takes the value above
the limit. Words of 32 and 64 bits are the two widths in use.

`readUnsigned_eq_ok`: a number is read from its numerals, if it is within the limit, and from no other text.
-/

namespace Shardwire.Text

/-- why a text is no unsigned integer of the wanted width -/
inductive IntegerFault where
  | empty
  | invalidDigit
  | tooLarge
  deriving DecidableEq, Repr

def IntegerFault.message : IntegerFault → String
  | .empty => "cannot parse integer from empty string"
  | .invalidDigit => "invalid digit found in string"
  | .tooLarge => "number too large to fit in target type"

/-- value of an ASCII digit -/
def digit? (c : Char) : Option Nat :=
  if '0' ≤ c ∧ c ≤ '9' then some (c.toNat - '0'.toNat) else none

/-- read on from the value `acc` of the digits seen so far -/
def readDigits (limit acc : Nat) : List Char → Except IntegerFault Nat
  | [] => .ok acc
  | c :: cs =>
    match digit? c with
    | none => .error .invalidDigit
    | some d => if acc * 10 + d ≤ limit then readDigits limit (acc * 10 + d) cs else .error .tooLarge

/-- an unsigned integer up to `limit`; a sign on its own is an invalid digit -/
def readUnsigned (limit : Nat) : List Char → Except IntegerFault Nat
  | [] => .error .empty
  | ['+'] => .error .invalidDigit
  | '+' :: cs => readDigits limit 0 cs
  | cs => readDigits limit 0 cs

/-- a 32-bit word -/
def readUInt32 (s : String) : Except IntegerFault UInt32 :=
  (readUnsigned (UInt32.size - 1) s.toList).map UInt32.ofNat

/-- a 64-bit word -/
def readUInt64 (s : String) : Except IntegerFault UInt64 :=
  (readUnsigned (UInt64.size - 1) s.toList).map UInt64.ofNat

/-! ## Numerals -/

/-- one or more decimal digits with the value `n` -/
def Digits (n : Nat) (cs : List Char) : Prop :=
  cs ≠ [] ∧ (∀ c ∈ cs, c.isDigit = true) ∧ Nat.ofDigitChars 10 cs 0 = n

/-- digits, with or without a plus sign in front -/
def Numeral (n : Nat) (cs : List Char) : Prop := Digits n cs ∨ ∃ digits, cs = '+' :: digits ∧ Digits n digits

theorem le_ofDigitChars (cs : List Char) (m : Nat) : m ≤ Nat.ofDigitChars 10 cs m := by
  induction cs generalizing m with
  | nil => exact Nat.le_refl m
  | cons c cs ih =>
    rw [Nat.ofDigitChars_cons]
    have := ih (10 * m + (c.toNat - '0'.toNat))
    omega

theorem digit?_eq (c : Char) : digit? c = if c.isDigit = true then some (c.toNat - '0'.toNat) else none := by
  simp [digit?, Char.isDigit, Char.le_def]

/-- Digits are read as long as there are only digits and their value is within the limit. -/
theorem readDigits_eq_ok {limit acc n : Nat} {cs : List Char} (hacc : acc ≤ limit) :
    readDigits limit acc cs = .ok n ↔
      (∀ c ∈ cs, c.isDigit = true) ∧ Nat.ofDigitChars 10 cs acc = n ∧ n ≤ limit := by
  induction cs generalizing acc with
  | nil =>
    simp only [readDigits, Except.ok.injEq, List.not_mem_nil, false_implies, implies_true, true_and]
    constructor
    · rintro rfl
      exact ⟨rfl, hacc⟩
    · exact fun h => h.1
  | cons c cs ih =>
    rw [readDigits, digit?_eq, List.forall_mem_cons, Nat.ofDigitChars_cons]
    by_cases hc : c.isDigit = true
    · have shift : acc * 10 + (c.toNat - '0'.toNat) = 10 * acc + (c.toNat - '0'.toNat) := by omega
      simp only [hc, if_true, true_and, shift]
      split
      · next within => exact ih within
      · next beyond =>
        have least := le_ofDigitChars cs (10 * acc + (c.toNat - '0'.toNat))
        constructor
        · exact fun h => nomatch h
        · rintro ⟨-, value, small⟩
          omega
    · simp [hc]

theorem not_digits_nil (n : Nat) : ¬ Digits n [] := fun ⟨filled, _⟩ => filled rfl

/-- A sign is no digit. -/
theorem not_digits_sign (n : Nat) (cs : List Char) : ¬ Digits n ('+' :: cs) :=
  fun ⟨_, digits, _⟩ => absurd (digits '+' List.mem_cons_self) (by decide)

theorem readUnsigned_eq_ok {limit n : Nat} {cs : List Char} :
    readUnsigned limit cs = .ok n ↔ Numeral n cs ∧ n ≤ limit := by
  have plain {ds : List Char} (filled : ds ≠ []) : readDigits limit 0 ds = .ok n ↔ Digits n ds ∧ n ≤ limit := by
    rw [readDigits_eq_ok (Nat.zero_le _), Digits]
    simp only [filled, ne_eq, not_false_eq_true, true_and, and_assoc]
  unfold readUnsigned Numeral
  split
  · simp [not_digits_nil]
  · simp [not_digits_sign, not_digits_nil]
  · next ds lone =>
    have filled : ds ≠ [] := by rintro rfl; exact lone rfl
    simp [plain filled, not_digits_sign]
  · next filled _ unsigned =>
    have bare : ¬ ∃ digits, cs = '+' :: digits ∧ Digits n digits := fun ⟨digits, eq, _⟩ => unsigned digits eq
    simp only [plain filled, bare, or_false]

/-- A word is read from the numerals of its number, whatever its width. -/
theorem map_readUnsigned_eq_ok {α : Type} {limit : Nat} {ofNat : Nat → α} {toNat : α → Nat}
    (number : ∀ n ≤ limit, toNat (ofNat n) = n) (word : ∀ w, ofNat (toNat w) = w) (within : ∀ w, toNat w ≤ limit)
    {cs : List Char} {w : α} : (readUnsigned limit cs).map ofNat = .ok w ↔ Numeral (toNat w) cs := by
  constructor
  · intro h
    cases read : readUnsigned limit cs with
    | error f => rw [read] at h; cases h
    | ok n =>
      rw [read] at h
      cases h
      obtain ⟨numeral, small⟩ := readUnsigned_eq_ok.1 read
      rwa [number n small]
  · intro numeral
    rw [readUnsigned_eq_ok.2 ⟨numeral, within w⟩]
    exact congrArg Except.ok (word w)

theorem readUInt32_eq_ok {s : String} {w : UInt32} : readUInt32 s = .ok w ↔ Numeral w.toNat s.toList :=
  map_readUnsigned_eq_ok (fun _ h => UInt32.toNat_ofNat_of_lt' (Nat.lt_of_le_sub_one (by decide) h))
    (fun _ => UInt32.ofNat_toNat) fun w => Nat.le_sub_one_of_lt w.toNat_lt

theorem readUInt64_eq_ok {s : String} {w : UInt64} : readUInt64 s = .ok w ↔ Numeral w.toNat s.toList :=
  map_readUnsigned_eq_ok (fun _ h => UInt64.toNat_ofNat_of_lt' (Nat.lt_of_le_sub_one (by decide) h))
    (fun _ => UInt64.ofNat_toNat) fun w => Nat.le_sub_one_of_lt w.toNat_lt

end Shardwire.Text
