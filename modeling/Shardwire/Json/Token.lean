import Shardwire.Json.Value

/-
Tokens of JSON text.

A text is cut into tokens from the left. A token that cannot be finished carries what is wrong with it: `truncated` if
the text ends too early, `malformed` otherwise; whatever would follow it does not matter any more. A string with an
escaped surrogate that has no partner is no text, but it has an end, so it can still be passed over: it is `ragged`.

A number without fraction and exponent is an integer if it fits 64 bits, signed below zero; minus zero and all other
numbers are floating. Their digits are taken while the significand fits 64 bits; a whole digit left out counts as a
power of ten, and after the first left-out digit of a fraction the others are ignored.
-/

namespace Shardwire.Json

/-- what is wrong with a text or a value: not JSON, cut off, or not of the wanted shape -/
inductive Flaw where
  | malformed
  | truncated
  | mismatch
  deriving DecidableEq, Repr

/-- a number as written -/
inductive Numeral where
  | int (n : Int)
  | float (x : Double)
  /-- beyond the largest finite number -/
  | huge
  deriving DecidableEq

inductive Token where
  | openArr
  | closeArr
  | openObj
  | closeObj
  | comma
  | colon
  | null
  | bool (b : Bool)
  | number (n : Numeral)
  | text (s : String)
  /-- a string that is no text, with what is wrong with its end -/
  | ragged (rest : Option Flaw)
  /-- a string that ends badly -/
  | badText (flaw : Flaw)
  /-- a number that ends badly -/
  | badNumber (flaw : Flaw)
  /-- anything else that ends badly or begins no token -/
  | badWord (flaw : Flaw)
  deriving DecidableEq

/-- blanks between tokens -/
def isSpace (c : Char) : Bool :=
  c == ' ' || c == '\n' || c == '\t' || c == '\r'

/-! ## Strings -/

def hexDigit? (c : Char) : Option Nat :=
  if '0' ≤ c ∧ c ≤ '9' then some (c.toNat - '0'.toNat)
  else if 'a' ≤ c ∧ c ≤ 'f' then some (c.toNat - 'a'.toNat + 10)
  else if 'A' ≤ c ∧ c ≤ 'F' then some (c.toNat - 'A'.toNat + 10)
  else none

/-- whether the text goes on for at least `n` bytes -/
def hasBytes : Nat → List Char → Bool
  | 0, _ => true
  | _, [] => false
  | n, c :: cs => hasBytes (n - c.utf8Size) cs

/-- the unit of four hexadecimal digits, and the text after it -/
def hexUnit (cs : List Char) : Except Flaw (Nat × List Char) :=
  match cs with
  | a :: b :: c :: d :: rest =>
    match hexDigit? a, hexDigit? b, hexDigit? c, hexDigit? d with
    | some a, some b, some c, some d => .ok (((a * 16 + b) * 16 + c) * 16 + d, rest)
    | _, _, _, _ => .error (if hasBytes 4 cs then .malformed else .truncated)
  | _ => .error (if hasBytes 4 cs then .malformed else .truncated)

/-- the character of a one-letter escape -/
def escaped? : Char → Option Char
  | '"' => some '"'
  | '\\' => some '\\'
  | '/' => some '/'
  | 'b' => some (Char.ofNat 0x08)
  | 'f' => some (Char.ofNat 0x0C)
  | 'n' => some '\n'
  | 'r' => some '\r'
  | 't' => some '\t'
  | _ => none

def isLead (u : Nat) : Bool := 0xD800 ≤ u && u ≤ 0xDBFF

def isTrail (u : Nat) : Bool := 0xDC00 ≤ u && u ≤ 0xDFFF

/-- what an escape stands for -/
inductive Escape where
  | char (c : Char) (rest : List Char)
  /-- a surrogate without partner -/
  | lone (rest : List Char)
  | bad (flaw : Flaw)

/-- the escape after a backslash -/
def readEscape : List Char → Escape
  | [] => .bad .truncated
  | 'u' :: cs =>
    match hexUnit cs with
    | .error f => .bad f
    | .ok (u, rest) =>
      if isTrail u then .lone rest
      else if isLead u then
        match rest with
        | [] => .bad .truncated
        | '\\' :: [] => .bad .truncated
        | '\\' :: 'u' :: more =>
          match hexUnit more with
          | .error f => if f = .truncated then .bad .truncated else .lone rest
          | .ok (v, after) =>
            if isTrail v then .char (Char.ofNat (0x10000 + (u - 0xD800) * 0x400 + (v - 0xDC00))) after
            else .lone rest
        | _ => .lone rest
      else .char (Char.ofNat u) rest
  | c :: cs =>
    match escaped? c with
    | some e => .char e cs
    | none => .bad .malformed

/-- pass over the rest of a ragged string -/
def passString : Nat → List Char → Option Flaw × List Char
  | 0, cs => (some .truncated, cs)
  | _, [] => (some .truncated, [])
  | n + 1, c :: cs =>
    if c = '"' then (none, cs)
    else if c = '\\' then
      match cs with
      | [] => (some .truncated, [])
      | 'u' :: more =>
        match hexUnit more with
        | .ok (_, rest) => passString n rest
        | .error f => (some f, [])
      | e :: more => if (escaped? e).isSome then passString n more else (some .malformed, [])
    else if c.toNat < 0x20 then (some .malformed, [])
    else passString n cs

/-- a string after its opening quote; `acc` holds the characters so far, the last one first -/
def readString : Nat → List Char → List Char → Token × List Char
  | 0, _, cs => (.badText .truncated, cs)
  | _, _, [] => (.badText .truncated, [])
  | n + 1, acc, c :: cs =>
    if c = '"' then (.text (String.ofList acc.reverse), cs)
    else if c = '\\' then
      match readEscape cs with
      | .char e rest => readString n (e :: acc) rest
      | .lone rest =>
        let (flaw, after) := passString n rest
        (.ragged flaw, after)
      | .bad f => (.badText f, [])
    else if c.toNat < 0x20 then (.badText .malformed, [])
    else readString n (c :: acc) cs

/-! ## Numbers -/

def isDigit (c : Char) : Bool := '0' ≤ c && c ≤ '9'

def digitValue (c : Char) : Nat := c.toNat - '0'.toNat

/-- digits taken while the significand fits 64 bits, and how many were left -/
def takeDigits (significand : Nat) : List Char → Nat × Nat
  | [] => (significand, 0)
  | c :: cs =>
    if significand * 10 + digitValue c < UInt64.size then takeDigits (significand * 10 + digitValue c) cs
    else (significand, cs.length + 1)

/-- a number without fraction and exponent -/
def wholeNumeral (negative : Bool) (digits : List Char) : Numeral :=
  let (m, left) := takeDigits 0 digits
  let float (e : Int) : Numeral :=
    match Double.ofDecimal negative m e with
    | some x => .float x
    | none => .huge
  if left ≠ 0 then float left
  else if !negative then .int m
  else if m = 0 ∨ Nat.pow 2 63 < m then float 0
  else .int (-m)

/-- a number with a fraction or an exponent -/
def pointNumeral (negative : Bool) (digits fraction : List Char) (exponent : Int) : Numeral :=
  let (m, left) := takeDigits 0 digits
  let (m', lost) := takeDigits m fraction
  let e : Int := (left : Int) - ((fraction.length - lost : Nat) : Int) + exponent
  match Double.ofDecimal negative m' e with
  | some x => .float x
  | none => .huge

/-- the token of a number that should go on with a digit -/
def noDigit (cs : List Char) : Token × List Char :=
  (.badNumber (if cs.isEmpty then .truncated else .malformed), [])

/-- the exponent after its letter -/
def readExponent (negative : Bool) (digits fraction : List Char) (cs : List Char) : Token × List Char :=
  let (below, cs) := match cs with
    | '+' :: rest => (false, rest)
    | '-' :: rest => (true, rest)
    | _ => (false, cs)
  let power := cs.takeWhile isDigit
  if power.isEmpty then noDigit cs
  else
    let e : Int := power.foldl (fun n c => n * 10 + digitValue c) 0
    (.number (pointNumeral negative digits fraction (if below then -e else e)), cs.dropWhile isDigit)

/-- what may follow the whole digits -/
def readTail (negative : Bool) (digits : List Char) (cs : List Char) : Token × List Char :=
  match cs with
  | '.' :: rest =>
    let fraction := rest.takeWhile isDigit
    if fraction.isEmpty then noDigit rest
    else
      match rest.dropWhile isDigit with
      | 'e' :: more => readExponent negative digits fraction more
      | 'E' :: more => readExponent negative digits fraction more
      | after => (.number (pointNumeral negative digits fraction 0), after)
  | 'e' :: rest => readExponent negative digits [] rest
  | 'E' :: rest => readExponent negative digits [] rest
  | _ => (.number (wholeNumeral negative digits), cs)

/-- a number after its sign; nothing but the tail may follow a leading zero -/
def readNumber (negative : Bool) (cs : List Char) : Token × List Char :=
  match cs with
  | '0' :: rest =>
    if (rest.head?.any isDigit) then (.badNumber .malformed, []) else readTail negative ['0'] rest
  | _ =>
    let digits := cs.takeWhile isDigit
    if digits.isEmpty then noDigit cs else readTail negative digits (cs.dropWhile isDigit)

/-! ## All tokens -/

/-- the rest of a word whose first letter is gone -/
def readWord (token : Token) : List Char → List Char → Token × List Char
  | [], cs => (token, cs)
  | _ :: _, [] => (.badWord .truncated, [])
  | w :: ws, c :: cs => if w = c then readWord token ws cs else (.badWord .malformed, [])

/-- the token that begins with `c`; `n` is at least the number of characters left -/
def readToken (n : Nat) (c : Char) (cs : List Char) : Token × List Char :=
  if c = '"' then readString n [] cs
  else if c = '-' then readNumber true cs
  else if isDigit c then readNumber false (c :: cs)
  else if c = '[' then (.openArr, cs)
  else if c = ']' then (.closeArr, cs)
  else if c = '{' then (.openObj, cs)
  else if c = '}' then (.closeObj, cs)
  else if c = ',' then (.comma, cs)
  else if c = ':' then (.colon, cs)
  else if c = 'n' then readWord .null ['u', 'l', 'l'] cs
  else if c = 't' then readWord (.bool true) ['r', 'u', 'e'] cs
  else if c = 'f' then readWord (.bool false) ['a', 'l', 's', 'e'] cs
  else (.badWord .malformed, [])

/-- tokens from the left; `n` is more than the number of characters left -/
def tokensWithin : Nat → List Char → List Token
  | 0, _ => []
  | _, [] => []
  | n + 1, c :: cs =>
    if isSpace c then tokensWithin n cs
    else
      let (token, rest) := readToken (n + 1) c cs
      token :: tokensWithin n rest

def tokens (s : String) : List Token :=
  tokensWithin (s.toList.length + 1) s.toList

end Shardwire.Json
