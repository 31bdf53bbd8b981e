import Mathlib.Data.Nat.Digits.Defs
import Shardwire.Json.Printer
import Shardwire.Proofs.Json.Values
import Shardwire.Text.Integer

/-
Text that is written, and the tokens it is cut into.

A value whose numbers are integers of 64 bits is written as the tokens it consists of, one after another: strings with
all their escapes, integers with all their digits. `Cuts` says which tokens a text begins with, and what remains;
`write_cuts` says so of a value, whatever follows it, as long as no number runs on.
- `readString_written`: a string is read back character by character;
- `readNumber_digits`: so is an integer, over the whole range of signed and unsigned 64-bit words;
- `fits_tokens`: an integer token is of 64 bits, whatever the text.
-/

namespace Shardwire.Json

/-! ## Strings -/

theorem hexDigit?_digitChar : ∀ n < 16, hexDigit? (Nat.digitChar n) = some n := by decide

/-- An escape of four digits stands for its character. -/
theorem readEscape_hex {c : Char} (control : c.toNat < 0x20) (rest : List Char) :
    readEscape ('u' :: '0' :: '0' :: (hexByte c.toNat ++ rest)) = .char c rest := by
  have zero : hexDigit? '0' = some 0 := by decide
  have high := hexDigit?_digitChar (c.toNat / 16) (by omega)
  have low := hexDigit?_digitChar (c.toNat % 16) (by omega)
  have unit : hexUnit ('0' :: '0' :: (hexByte c.toNat ++ rest)) = .ok (c.toNat, rest) := by
    simp only [hexByte, List.cons_append, List.nil_append, hexUnit, zero, high, low]
    have whole : ((0 * 16 + 0) * 16 + c.toNat / 16) * 16 + c.toNat % 16 = c.toNat := by omega
    rw [whole]
  have noTrail : isTrail c.toNat = false := by
    simp only [isTrail, Bool.and_eq_false_iff, decide_eq_false_iff_not]
    omega
  have noLead : isLead c.toNat = false := by
    simp only [isLead, Bool.and_eq_false_iff, decide_eq_false_iff_not]
    omega
  simp only [readEscape, unit, noTrail, noLead, Char.ofNat_toNat, if_false, Bool.false_eq_true]

/-- An escape of one letter stands for its character. -/
theorem readString_escape {c letter : Char} {acc rest : List Char} {n : Nat} (plain : letter ≠ 'u')
    (escape : escaped? letter = some c) :
    readString (n + 1) acc ('\\' :: letter :: rest) = readString n (c :: acc) rest := by
  have read : readEscape (letter :: rest) = .char c rest := by
    rw [readEscape.eq_def]
    split
    · cases ‹_ :: _ = []›
    · next h => exact absurd (List.cons.inj h).1 plain
    · next h =>
      obtain ⟨rfl, rfl⟩ := List.cons.inj h
      rw [escape]
  rw [readString, if_neg (by decide), if_pos rfl, read]

theorem eq_of_toNat {c : Char} {n : Nat} (h : c.toNat = n) : Char.ofNat n = c := by
  rw [← h, Char.ofNat_toNat]

/-- A character is read as it was written. -/
theorem readString_writeChar (c : Char) (n : Nat) (acc rest : List Char) :
    readString (n + 1) acc (writeChar c ++ rest) = readString n (c :: acc) rest := by
  unfold writeChar
  split_ifs with quote backslash back tab line feed ret control
  · exact readString_escape (by decide) (by rw [quote]; rfl)
  · exact readString_escape (by decide) (by rw [backslash]; rfl)
  · exact readString_escape (by decide) (congrArg some (eq_of_toNat back))
  · exact readString_escape (by decide) (congrArg some (eq_of_toNat tab))
  · exact readString_escape (by decide) (congrArg some (eq_of_toNat line))
  · exact readString_escape (by decide) (congrArg some (eq_of_toNat feed))
  · exact readString_escape (by decide) (congrArg some (eq_of_toNat ret))
  · rw [List.append_assoc]
    show readString (n + 1) acc ('\\' :: ('u' :: '0' :: '0' :: (hexByte c.toNat ++ rest))) = _
    rw [readString, if_neg (by decide), if_pos rfl, readEscape_hex control]
  · rw [List.singleton_append, readString, if_neg quote, if_neg backslash, if_neg control]

/-- A string is read as it was written. -/
theorem readString_written {n : Nat} {cs : List Char} (room : cs.length < n) (acc rest : List Char) :
    readString n acc (cs.flatMap writeChar ++ '"' :: rest) = (.text (String.ofList (acc.reverse ++ cs)), rest) := by
  induction cs generalizing n acc with
  | nil =>
    obtain ⟨n, rfl⟩ := Nat.exists_eq_add_one_of_ne_zero (Nat.ne_of_gt room)
    simp [readString]
  | cons c cs ih =>
    obtain ⟨n, rfl⟩ := Nat.exists_eq_add_one_of_ne_zero (Nat.ne_of_gt (Nat.zero_lt_of_lt room))
    rw [List.flatMap_cons, List.append_assoc, readString_writeChar, ih (Nat.lt_of_succ_lt_succ room)]
    simp

theorem length_writeChar_pos (c : Char) : 0 < (writeChar c).length := by
  unfold writeChar
  split_ifs <;> simp

theorem length_le_written (cs : List Char) : cs.length ≤ (cs.flatMap writeChar).length := by
  induction cs with
  | nil => exact Nat.le_refl 0
  | cons c cs ih =>
    have := length_writeChar_pos c
    rw [List.flatMap_cons, List.length_cons, List.length_append]
    omega

/-! ## Integers -/

theorem isDigit_of_isDigit {c : Char} (h : c.isDigit = true) : isDigit c = true := by
  simpa [isDigit, Char.isDigit, Char.le_def] using h

theorem isDigit_digits {n : Nat} {c : Char} (h : c ∈ Nat.toDigits 10 n) : isDigit c = true :=
  isDigit_of_isDigit (Nat.isDigit_of_mem_toDigits (by decide) (by decide) h)

section Digit

variable {c : Char}

theorem not_digit {d : Char} (h : isDigit c = true) (other : isDigit d = false) : c ≠ d := by
  rintro rfl
  rw [h] at other
  cases other

theorem isSpace_digit (h : isDigit c = true) : isSpace c = false := by
  simp only [isSpace, Bool.or_eq_false_iff, beq_eq_false_iff_ne]
  exact ⟨⟨⟨not_digit h rfl, not_digit h rfl⟩, not_digit h rfl⟩, not_digit h rfl⟩

end Digit

/-- Only zero is written with a zero in front. -/
theorem head?_digits {n : Nat} (positive : 0 < n) : ∀ c ∈ (Nat.toDigits 10 n).head?, c ≠ '0' := by
  induction n using Nat.strongRecOn with
  | ind n ih =>
    by_cases small : n < 10
    · rw [Nat.toDigits_of_lt_base small]
      intro c hc
      cases hc
      exact fun zero => Nat.ne_of_gt positive (Nat.digitChar_eq_zero.1 zero)
    · obtain ⟨d, ds, front⟩ := List.exists_cons_of_ne_nil (Nat.toDigits_ne_nil (n := n / 10) (b := 10))
      have before := ih (n / 10) (by omega) (by omega)
      rw [Nat.toDigits_of_base_le (by decide) (by omega), front, List.cons_append]
      rwa [front] at before

/-- Digits are taken as long as their value is a word. -/
theorem takeDigits_eq {cs : List Char} {m : Nat} (fits : Nat.ofDigitChars 10 cs m < UInt64.size) :
    takeDigits m cs = (Nat.ofDigitChars 10 cs m, 0) := by
  induction cs generalizing m with
  | nil => rfl
  | cons c cs ih =>
    have shift : m * 10 + digitValue c = 10 * m + (c.toNat - '0'.toNat) := by rw [digitValue]; omega
    rw [Nat.ofDigitChars_cons] at fits ⊢
    have next : m * 10 + digitValue c < UInt64.size := by
      rw [shift]
      exact Nat.lt_of_le_of_lt (Text.le_ofDigitChars cs _) fits
    rw [takeDigits, if_pos next, shift]
    exact ih fits

theorem takeDigits_digits {n : Nat} (fits : n < 2 ^ 64) : takeDigits 0 (Nat.toDigits 10 n) = (n, 0) := by
  have value : Nat.ofDigitChars 10 (Nat.toDigits 10 n) 0 = n := Nat.ofDigitChars_ten_toDigits
  rw [takeDigits_eq (by rw [value]; exact fits), value]

/-- what may follow a number for it to end there -/
def endsNumber : List Char → Bool
  | [] => true
  | c :: _ => c == ',' || c == ']' || c == '}'

theorem endsNumber_cases {cs : List Char} (h : endsNumber cs = true) :
    cs = [] ∨ ∃ c rest, cs = c :: rest ∧ (c = ',' ∨ c = ']' ∨ c = '}') := by
  cases cs with
  | nil => exact .inl rfl
  | cons c rest =>
    refine .inr ⟨c, rest, rfl, ?_⟩
    simpa [endsNumber, or_assoc] using h

theorem readTail_end {negative : Bool} {digits rest : List Char} (stops : endsNumber rest = true) :
    readTail negative digits rest = (.number (wholeNumeral negative digits), rest) := by
  rcases endsNumber_cases stops with rfl | ⟨c, more, rfl, rfl | rfl | rfl⟩ <;> rfl

/-- An integer is read as it was written, but for its sign. -/
theorem readNumber_digits (negative : Bool) (n : Nat) {rest : List Char} (stops : endsNumber rest = true) :
    readNumber negative (Nat.toDigits 10 n ++ rest) =
      (.number (wholeNumeral negative (Nat.toDigits 10 n)), rest) := by
  have taken : (Nat.toDigits 10 n ++ rest).takeWhile isDigit = Nat.toDigits 10 n := by
    rw [List.takeWhile_append_of_pos fun c hc => isDigit_digits hc]
    rcases endsNumber_cases stops with rfl | ⟨c, more, rfl, rfl | rfl | rfl⟩ <;> simp [isDigit]
  have left : (Nat.toDigits 10 n ++ rest).dropWhile isDigit = rest := by
    rw [List.dropWhile_append_of_pos fun c hc => isDigit_digits hc]
    rcases endsNumber_cases stops with rfl | ⟨c, more, rfl, rfl | rfl | rfl⟩ <;> simp [isDigit]
  by_cases zero : n = 0
  · subst zero
    have noDigit : rest.head?.any isDigit = false := by
      rcases endsNumber_cases stops with rfl | ⟨c, more, rfl, rfl | rfl | rfl⟩ <;> rfl
    show (if rest.head?.any isDigit then _ else readTail negative ['0'] rest) = _
    rw [noDigit]
    exact readTail_end stops
  · have front := head?_digits (Nat.pos_of_ne_zero zero)
    rw [readNumber.eq_def]
    split
    · next more starts =>
      obtain ⟨c, cs, digits⟩ := List.exists_cons_of_ne_nil (Nat.toDigits_ne_nil (n := n) (b := 10))
      rw [digits] at front starts
      exact absurd (List.cons.inj starts).1 (front c rfl)
    · have some : (Nat.toDigits 10 n).isEmpty = false := by simp
      simp only [taken, left, some, Bool.false_eq_true, if_false]
      exact readTail_end stops

/-- The digits of a word are that word. -/
theorem wholeNumeral_nat {n : Nat} (fits : n < 2 ^ 64) : wholeNumeral false (Nat.toDigits 10 n) = .int n := by
  simp [wholeNumeral, takeDigits_digits fits]

theorem wholeNumeral_neg {n : Nat} (positive : 0 < n) (fits : n ≤ 2 ^ 63) :
    wholeNumeral true (Nat.toDigits 10 n) = .int (-n) := by
  have inside : ¬ (n = 0 ∨ Nat.pow 2 63 < n) := by
    show ¬ (n = 0 ∨ 2 ^ 63 < n)
    omega
  simp only [wholeNumeral, takeDigits_digits (Nat.lt_of_le_of_lt fits (by decide)), ne_eq, not_true_eq_false, if_false,
    Bool.not_true, Bool.false_eq_true, inside]

/-! ## Cutting -/

/-- what a text begins with, and what remains of it, whatever the bound -/
def Cuts (cs : List Char) (ts : List Token) (rest : List Char) : Prop :=
  ∀ n, cs.length < n → ∃ m, rest.length < m ∧ tokensWithin n cs = ts ++ tokensWithin m rest

namespace Cuts

theorem nothing (cs : List Char) : Cuts cs [] cs := fun n room => ⟨n, room, rfl⟩

theorem trans {cs cs' rest : List Char} {ts us : List Token} (h : Cuts cs ts cs') (h' : Cuts cs' us rest) :
    Cuts cs (ts ++ us) rest := by
  intro n room
  obtain ⟨m, room', first⟩ := h n room
  obtain ⟨k, room'', second⟩ := h' m room'
  exact ⟨k, room'', by rw [first, second, List.append_assoc]⟩

/-- One token. -/
theorem token {c : Char} {cs rest : List Char} {t : Token} (letter : isSpace c = false)
    (read : ∀ n, cs.length < n → readToken n c cs = (t, rest)) (shorter : rest.length ≤ cs.length) :
    Cuts (c :: cs) [t] rest := by
  intro n room
  cases n with
  | zero => cases room
  | succ n =>
    rw [List.length_cons] at room
    refine ⟨n, by omega, ?_⟩
    rw [tokensWithin, letter, if_neg Bool.false_ne_true, read (n + 1) (by omega)]
    rfl

/-- The tokens of a whole text. -/
theorem tokens {s : String} {ts : List Token} (h : Cuts s.toList ts []) : Json.tokens s = ts := by
  obtain ⟨m, -, eq⟩ := h (s.toList.length + 1) (Nat.lt_succ_self _)
  have none : tokensWithin m [] = [] := by cases m <;> rfl
  rw [Json.tokens, eq, none, List.append_nil]

theorem string (s : String) (rest : List Char) : Cuts (writeString s ++ rest) [.text s] rest := by
  have shape : writeString s ++ rest = '"' :: (s.toList.flatMap writeChar ++ '"' :: rest) := by
    simp [writeString]
  rw [shape]
  refine token (by decide) (fun n room => ?_) ?_
  · have enough : s.toList.length < n := by
      have := length_le_written s.toList
      rw [List.length_append] at room
      omega
    rw [readToken, if_pos rfl, readString_written enough]
    simp
  · rw [List.length_append, List.length_cons]
    omega

theorem integer {n : Int} (fits : FitsWord n) {rest : List Char} (stops : endsNumber rest = true) :
    Cuts ((toString n).toList ++ rest) [.number (.int n)] rest := by
  obtain ⟨low, high⟩ := fits
  rw [Int.toString_eq_repr, Int.repr_eq_if]
  by_cases sign : 0 ≤ n
  · rw [if_pos sign, Nat.repr_eq_ofList_toDigits, String.toList_ofList]
    obtain ⟨c, cs, digits⟩ := List.exists_cons_of_ne_nil (Nat.toDigits_ne_nil (n := n.toNat) (b := 10))
    have digit : isDigit c = true := isDigit_digits (n := n.toNat) (by rw [digits]; exact List.mem_cons_self)
    have value : wholeNumeral false (Nat.toDigits 10 n.toNat) = .int n := by
      rw [wholeNumeral_nat (by omega), Int.toNat_of_nonneg sign]
    have read := readNumber_digits false n.toNat stops
    rw [value, digits] at read
    rw [digits, List.cons_append]
    refine token (isSpace_digit digit) (fun m _ => ?_) ?_
    · rw [readToken, if_neg (not_digit digit rfl), if_neg (not_digit digit rfl), if_pos digit]
      exact read
    · rw [List.length_append]
      omega
  · rw [if_neg sign, Nat.repr_eq_ofList_toDigits, String.toList_append, String.toList_ofList, String.toList_ofList,
      List.singleton_append, List.cons_append]
    have value : wholeNumeral true (Nat.toDigits 10 (-n).toNat) = .int n := by
      rw [wholeNumeral_neg (by omega) (by omega), Int.toNat_of_nonneg (by omega), Int.neg_neg]
    have read := readNumber_digits true (-n).toNat stops
    rw [value] at read
    refine token (by decide) (fun m _ => ?_) ?_
    · rw [readToken, if_neg (by decide), if_pos rfl]
      exact read
    · rw [List.length_append]
      omega

/-- A token that is one character. -/
theorem mark {c : Char} {t : Token} (letter : isSpace c = false) (read : ∀ n cs, readToken n c cs = (t, cs))
    (rest : List Char) : Cuts (c :: rest) [t] rest :=
  token letter (fun n _ => read n rest) (Nat.le_refl _)

theorem openArr (rest : List Char) : Cuts ('[' :: rest) [.openArr] rest := mark rfl (fun _ _ => rfl) rest

theorem closeArr (rest : List Char) : Cuts (']' :: rest) [.closeArr] rest := mark rfl (fun _ _ => rfl) rest

theorem openObj (rest : List Char) : Cuts ('{' :: rest) [.openObj] rest := mark rfl (fun _ _ => rfl) rest

theorem closeObj (rest : List Char) : Cuts ('}' :: rest) [.closeObj] rest := mark rfl (fun _ _ => rfl) rest

theorem comma (rest : List Char) : Cuts (',' :: rest) [.comma] rest := mark rfl (fun _ _ => rfl) rest

theorem colon (rest : List Char) : Cuts (':' :: rest) [.colon] rest := mark rfl (fun _ _ => rfl) rest

end Cuts

/-! ## Values -/

mutual

/-- the tokens a value is written with -/
def marks : Json → List Token
  | .null => [.null]
  | .bool b => [.bool b]
  | .int n => [.number (.int n)]
  | .float x => [.number (.float x)]
  | .str s => [.text s]
  | .arr items => .openArr :: itemMarks items ++ [.closeArr]
  | .obj members => .openObj :: memberMarks members ++ [.closeObj]

def itemMarks : List Json → List Token
  | [] => []
  | [v] => marks v
  | v :: w :: rest => marks v ++ .comma :: itemMarks (w :: rest)

def memberMarks : List (String × Json) → List Token
  | [] => []
  | [(k, v)] => .text k :: .colon :: marks v
  | (k, v) :: m :: rest => .text k :: .colon :: marks v ++ .comma :: memberMarks (m :: rest)

end

mutual

/-- A value is cut into the tokens it is written with. -/
theorem write_cuts : ∀ {v : Json} (rest : List Char), v.Every IsWord → endsNumber rest = true →
    Cuts (write v ++ rest) (marks v) rest
  | .null, rest, _, _ => .token rfl (fun _ _ => rfl) (by simp; omega)
  | .bool true, rest, _, _ => .token rfl (fun _ _ => rfl) (by simp; omega)
  | .bool false, rest, _, _ => .token rfl (fun _ _ => rfl) (by simp; omega)
  | .int n, rest, fits, stops => .integer fits stops
  | .float _, _, word, _ => word.elim
  | .str s, rest, _, _ => .string s rest
  | .arr items, rest, word, _ => by
    have inner := writeItems_cuts (']' :: rest) word.2 rfl
    have whole := ((Cuts.openArr _).trans inner).trans (.closeArr rest)
    simpa [write, marks] using whole
  | .obj members, rest, word, _ => by
    have inner := writeMembers_cuts ('}' :: rest) word.2 rfl
    have whole := ((Cuts.openObj _).trans inner).trans (.closeObj rest)
    simpa [write, marks] using whole

theorem writeItems_cuts : ∀ {items : List Json} (rest : List Char), EveryItem IsWord items → endsNumber rest = true →
    Cuts (writeItems items ++ rest) (itemMarks items) rest
  | [], rest, _, _ => .nothing rest
  | [v], rest, word, stops => write_cuts rest word.1 stops
  | v :: w :: more, rest, word, stops => by
    have here := write_cuts (',' :: (writeItems (w :: more) ++ rest)) word.1 rfl
    have there := writeItems_cuts rest word.2 stops
    have whole := (here.trans (.comma _)).trans there
    simpa [writeItems, itemMarks] using whole

theorem writeMembers_cuts : ∀ {members : List (String × Json)} (rest : List Char), EveryMember IsWord members →
    endsNumber rest = true → Cuts (writeMembers members ++ rest) (memberMarks members) rest
  | [], rest, _, _ => .nothing rest
  | [(k, v)], rest, word, stops => by
    have here := write_cuts rest word.1 stops
    have whole := ((Cuts.string k _).trans (.colon _)).trans here
    simpa [writeMembers, memberMarks] using whole
  | (k, v) :: m :: more, rest, word, stops => by
    have here := write_cuts (',' :: (writeMembers (m :: more) ++ rest)) word.1 rfl
    have there := writeMembers_cuts rest word.2 stops
    have whole := ((((Cuts.string k _).trans (.colon _)).trans here).trans (.comma _)).trans there
    simpa [writeMembers, memberMarks] using whole

end

/-- The tokens of the text of a value. -/
theorem tokens_render {v : Json} (word : v.Every IsWord) : tokens v.render = marks v := by
  apply Cuts.tokens
  have whole := write_cuts [] word rfl
  rw [List.append_nil] at whole
  rwa [render, String.toList_ofList]

/-! ## Integers of any text -/

/-- whether a token is no integer beyond 64 bits -/
def Token.Fits : Token → Prop
  | .number (.int n) => FitsWord n
  | _ => True

theorem fits_ite {p : Prop} [Decidable p] {r q : Token × List Char} (yes : r.1.Fits) (no : q.1.Fits) :
    (if p then r else q).1.Fits := by
  by_cases h : p
  · rwa [if_pos h]
  · rwa [if_neg h]

theorem takeDigits_lt (cs : List Char) {m : Nat} (h : m < UInt64.size) : (takeDigits m cs).1 < UInt64.size := by
  induction cs generalizing m with
  | nil => exact h
  | cons c cs ih =>
    rw [takeDigits]
    by_cases next : m * 10 + digitValue c < UInt64.size
    · rw [if_pos next]
      exact ih next
    · rw [if_neg next]
      exact h

theorem fits_wholeNumeral (negative : Bool) (digits : List Char) :
    (Token.number (wholeNumeral negative digits)).Fits := by
  have word : (takeDigits 0 digits).1 < UInt64.size := takeDigits_lt digits (by decide)
  simp only [wholeNumeral]
  split_ifs with left sign small
  · split <;> trivial
  · simp only [UInt64.size] at word
    exact ⟨by omega, by omega⟩
  · split <;> trivial
  · have bound : ¬ 2 ^ 63 < (takeDigits 0 digits).1 := fun above => small (.inr above)
    exact ⟨by omega, by omega⟩

theorem fits_pointNumeral (negative : Bool) (digits fraction : List Char) (e : Int) :
    (Token.number (pointNumeral negative digits fraction e)).Fits := by
  simp only [pointNumeral]
  split <;> trivial

theorem fits_readExponent (negative : Bool) (digits fraction cs : List Char) :
    (readExponent negative digits fraction cs).1.Fits := by
  unfold readExponent
  split
  exact fits_ite trivial (fits_pointNumeral ..)

theorem fits_readTail (negative : Bool) (digits cs : List Char) : (readTail negative digits cs).1.Fits := by
  unfold readTail
  split
  · apply fits_ite
    · trivial
    · split
      · exact fits_readExponent ..
      · exact fits_readExponent ..
      · exact fits_pointNumeral ..
  · exact fits_readExponent ..
  · exact fits_readExponent ..
  · exact fits_wholeNumeral negative digits

theorem fits_readNumber (negative : Bool) (cs : List Char) : (readNumber negative cs).1.Fits := by
  unfold readNumber
  split
  · exact fits_ite trivial (fits_readTail ..)
  · exact fits_ite trivial (fits_readTail ..)

theorem fits_readString (n : Nat) (acc cs : List Char) : (readString n acc cs).1.Fits := by
  induction n generalizing acc cs with
  | zero => cases cs <;> trivial
  | succ n ih =>
    cases cs with
    | nil => trivial
    | cons c cs =>
      rw [readString]
      split_ifs
      · trivial
      · split
        · exact ih ..
        · trivial
        · trivial
      · trivial
      · exact ih ..

theorem fits_readWord {t : Token} (h : t.Fits) (word cs : List Char) : (readWord t word cs).1.Fits := by
  induction word generalizing cs with
  | nil => exact h
  | cons w word ih =>
    cases cs with
    | nil => trivial
    | cons c cs =>
      rw [readWord]
      split_ifs
      · exact ih cs
      · trivial

theorem fits_readToken (n : Nat) (c : Char) (cs : List Char) : (readToken n c cs).1.Fits := by
  have mark {t : Token} (h : t.Fits) : (t, cs).1.Fits := h
  refine fits_ite (fits_readString ..) ?_
  refine fits_ite (fits_readNumber ..) ?_
  refine fits_ite (fits_readNumber ..) ?_
  iterate 6 refine fits_ite (mark trivial) ?_
  refine fits_ite (fits_readWord (t := .null) trivial ..) ?_
  refine fits_ite (fits_readWord (t := .bool true) trivial ..) ?_
  refine fits_ite (fits_readWord (t := .bool false) trivial ..) ?_
  trivial

/-- No integer of a text is beyond 64 bits. -/
theorem fits_tokens (s : String) : ∀ t ∈ tokens s, t.Fits := by
  suffices within : ∀ (n : Nat) (cs : List Char), ∀ t ∈ tokensWithin n cs, t.Fits from within _ _
  intro n
  induction n with
  | zero => exact fun cs t ht => nomatch ht
  | succ n ih =>
    intro cs t ht
    cases cs with
    | nil => cases ht
    | cons c cs =>
      rw [tokensWithin] at ht
      by_cases space : isSpace c
      · rw [if_pos space] at ht
        exact ih cs t ht
      · rw [if_neg space] at ht
        rcases List.mem_cons.1 ht with rfl | ht
        · exact fits_readToken ..
        · exact ih _ t ht

end Shardwire.Json
