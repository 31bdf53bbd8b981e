import Shardwire.Proofs.Acceptance
import Shardwire.Proofs.Json.Documents

/-
Printed settings are read again.

A number is printed as one of its numerals (`numeral_toString`), so a reader that takes all numerals takes the printed
one too. Shard counts and intents are printed as their numbers, or as a word that is no number.
- `ofTrimmed?_padded`: a printed shard count is read as itself, with any blanks around it;
- `parse_eq_ok`: intents are read from the numbers, without their unknown bits;
- `decodeText_toJson`: intents are read from the text of a document in the same way.

`printed_read_again` puts these together. Intents with unknown bits are not read again as they were
(`unknown_bits_dropped`).
-/

namespace Shardwire

open Text (Padded Numeral)

/-! ## Printed numbers -/

namespace Text

/-- A number is printed in digits of its value. -/
theorem numeral_toString (n : Nat) : Numeral n (toString n).toList := by
  have printed : (toString n).toList = Nat.toDigits 10 n := by rw [Nat.toString_eq_repr, Nat.toList_repr]
  rw [printed]
  left
  refine ⟨Nat.toDigits_ne_nil, ?_, Nat.ofDigitChars_ten_toDigits⟩
  intro c mem
  exact Nat.isDigit_of_mem_toDigits (by decide) (by decide) mem

theorem denotes_toString (n : Nat) : Denotes n (toString n) :=
  ⟨_, numeral_toString n, [], [], by simp, nofun, nofun⟩

theorem readUInt64_printed (w : UInt64) : readUInt64 (trim (toString w.toNat)) = .ok w :=
  readUInt64_eq_ok.2 (denotes_iff.1 (denotes_toString w.toNat))

end Text

/-! ## Shard counts -/

namespace ShardCount

variable {v : ShardCount} {s : String}

/-- What is printed, with blanks around it, stands for what was printed. -/
theorem means_padded (padded : Padded v.toText.toList s.toList) : v.Means s := by
  cases v with
  | auto => exact ⟨"auto".toList, by decide, padded⟩
  | fixed n => exact ⟨_, Text.numeral_toString n.toNat, padded⟩

theorem ofTrimmed?_padded (positive : v ≠ .fixed 0) (padded : Padded v.toText.toList s.toList) :
    ofTrimmed? (Text.trim s) = some v :=
  Settings.ofTrimmed?_trim.2 ⟨positive, means_padded padded⟩

end ShardCount

/-! ## Intents -/

namespace Intents

variable {i : Intents} {s : String}

/-- Intents are read from the texts of numbers, and unknown bits are dropped. -/
theorem parse_eq_ok : parse s = .ok i ↔ ∃ w : UInt64, Text.Denotes w.toNat s ∧ i = ofBits w := by
  have read {w : UInt64} : Text.readUInt64 (Text.trim s) = .ok w ↔ Text.Denotes w.toNat s := by
    rw [Text.denotes_iff, Text.readUInt64_eq_ok]
  simp only [← read, parse]
  cases Text.readUInt64 (Text.trim s) with
  | error f => exact ⟨nofun, fun ⟨_, h, _⟩ => nomatch h⟩
  | ok w =>
    constructor
    · rintro ⟨⟩
      exact ⟨w, rfl, rfl⟩
    · rintro ⟨_, ⟨⟩, rfl⟩
      rfl

theorem parse_toText (i : Intents) : parse i.toText = .ok i.truncate :=
  parse_eq_ok.2 ⟨i.bits, Text.denotes_toString _, rfl⟩

/-- The number of a set of intents is read from its text as that set, without unknown bits. -/
theorem decodeText_toJson (i : Intents) : Json.decodeText decoder i.toJson.render = .ok i.truncate := by
  have integer : i.toJson.Every Json.IsWord := by
    have := i.bits.toNat_lt
    exact ⟨by omega, by omega⟩
  have read : decoder (.text Json.Source.maxLevels) (.ofJson i.toJson) = .ok i.truncate := by
    rw [decoder, toJson, Json.uint64_word]
    rfl
  rw [Json.decodeText, Json.document_render integer]
  simp only [read]
  rfl

end Intents

/-! ## Printing and reading -/

/-- A printed shard count is read as itself, with any blanks around it, unless it is zero, which no text stands for. A
printed set of intents is read as its known bits, and so is the text of its number: as itself exactly if it has no
others. What is read from any text is the number it stands for without its unknown bits; printed and read again, it stays
the same. -/
theorem printed_read_again :
    (∀ (v : ShardCount) (s : String), v ≠ .fixed 0 → Padded v.toText.toList s.toList →
      ShardCount.ofTrimmed? (Text.trim s) = some v) ∧
    (∀ s, ShardCount.ofTrimmed? (Text.trim s) ≠ some (.fixed 0)) ∧
    (∀ i : Intents, Intents.parse i.toText = .ok i.truncate ∧
      Json.decodeText Intents.decoder i.toJson.render = .ok i.truncate ∧
      (i.truncate = i ↔ i.bits &&& Intents.flags.foldl (fun acc f => acc ||| f.2) 0 = i.bits)) ∧
    ∀ s i, Intents.parse s = .ok i →
      (∃ w : UInt64, Text.Denotes w.toNat s ∧ i.bits = w &&& Intents.flags.foldl (fun acc f => acc ||| f.2) 0) ∧
      Intents.parse i.toText = .ok i := by
  refine ⟨fun v s positive padded => ShardCount.ofTrimmed?_padded positive padded, ?nonzero,
    fun i => ⟨i.parse_toText, i.decodeText_toJson, ?known⟩, ?stable⟩
  case nonzero =>
    intro s zero
    exact (Settings.ofTrimmed?_trim.1 zero).1 rfl
  case known =>
    rw [← Intents.allBits_eq, Intents.truncate_eq_self, Intents.isExact, beq_iff_eq]
  case stable =>
    intro s i parsed
    obtain ⟨w, number, rfl⟩ := Intents.parse_eq_ok.1 parsed
    rw [← Intents.allBits_eq]
    refine ⟨⟨w, number, rfl⟩, ?_⟩
    rw [Intents.parse_toText, Intents.truncate_ofBits]

/-- A bit that no intent has is printed, and not read again. -/
theorem unknown_bits_dropped :
    let i : Intents := ⟨Intents.bit 40⟩
    i.toText = "1099511627776" ∧ Intents.parse i.toText = .ok .empty ∧ Intents.parse i.toText ≠ .ok i := by
  intro i
  have dropped : i.truncate = .empty := by decide
  have read : Intents.parse i.toText = .ok .empty := dropped ▸ Intents.parse_toText i
  refine ⟨by decide, read, fun kept => ?_⟩
  have same : Intents.empty = i := Except.ok.inj (read.symm.trans kept)
  exact absurd same (by decide)

/-- The largest shard count, between an em space and a line break, and a number with unknown bits. -/
theorem printed_read_again_padded :
    ShardCount.ofTrimmed? (Text.trim "\u2003 4294967295\n") = some (.fixed 4294967295) ∧
    (Intents.ofBits 0xFFFFFF).toText = "3276799" ∧
    Intents.parse (Intents.ofBits 0xFFFFFF).toText = .ok (Intents.ofBits 0xFFFFFF) := by
  refine ⟨?_, by decide, ?_⟩
  · apply printed_read_again.1 (.fixed 4294967295) _ (by decide)
    exact ⟨['\u2003', ' '], ['\n'], by decide, List.all_eq_true.1 rfl, List.all_eq_true.1 rfl⟩
  · exact (printed_read_again.2.2.2 "16777215" _ rfl).2

end Shardwire
