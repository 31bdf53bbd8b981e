import Shardwire.Json.Token

/-
The outline of a text: as much of its structure as can be made out from the left.

An array or object that is not closed keeps the parts before the break and says how it breaks; where no value can be
read there is a gap. After a comma there is always a further part, if only a gap. So whoever walks an outline from the
left meets what is wrong with the text exactly where a reader of the text would, and nothing that lies behind it.
A value in memory is an outline without breaks.
-/

namespace Shardwire.Json

/-- why there is no value at a place -/
inductive Gap where
  /-- the text ends -/
  | ending
  /-- a string that ends badly -/
  | badText (flaw : Flaw)
  /-- a number that ends badly -/
  | badNumber (flaw : Flaw)
  /-- anything else that is no value -/
  | badWord (flaw : Flaw)
  deriving DecidableEq

def Gap.flaw : Gap → Flaw
  | .ending => .truncated
  | .badText f => f
  | .badNumber f => f
  | .badWord f => f

inductive Outline where
  | null
  | bool (b : Bool)
  | number (n : Numeral)
  | text (s : String)
  /-- a string that is no text, with what is wrong with its end -/
  | ragged (rest : Option Flaw)
  /-- items, and what is wrong where the bracket should close -/
  | arr (items : List Outline) (stop : Option Flaw)
  /-- keys with values, and what is wrong where the brace should close -/
  | obj (members : List (Outline × Outline)) (stop : Option Flaw)
  | gap (g : Gap)
  deriving Inhabited

namespace Outline

mutual

/-- the outline at the front, and the tokens after it; the number bounds the nesting and the length of lists -/
def read : Nat → List Token → Outline × List Token
  | 0, ts => (.gap .ending, ts)
  | _, [] => (.gap .ending, [])
  | n + 1, t :: ts =>
    match t with
    | .null => (.null, ts)
    | .bool b => (.bool b, ts)
    | .number x => (.number x, ts)
    | .text s => (.text s, ts)
    | .ragged rest => (.ragged rest, ts)
    | .badText f => (.gap (.badText f), [])
    | .badNumber f => (.gap (.badNumber f), [])
    | .badWord f => (.gap (.badWord f), [])
    | .openArr =>
      match ts with
      | [] => (.arr [] (some .truncated), [])
      | .closeArr :: rest => (.arr [] none, rest)
      | ts =>
        let (items, stop, rest) := readItems n ts
        (.arr items stop, rest)
    | .openObj =>
      match ts with
      | [] => (.obj [] (some .truncated), [])
      | .closeObj :: rest => (.obj [] none, rest)
      | ts =>
        let (members, stop, rest) := readMembers n ts
        (.obj members stop, rest)
    | _ => (.gap (.badWord .malformed), [])

def readItems : Nat → List Token → List Outline × Option Flaw × List Token
  | 0, ts => ([], some .truncated, ts)
  | n + 1, ts =>
    let (v, rest) := read n ts
    match rest with
    | .comma :: more =>
      let (vs, stop, after) := readItems n more
      (v :: vs, stop, after)
    | .closeArr :: more => ([v], none, more)
    | [] => ([v], some .truncated, [])
    | _ => ([v], some .malformed, [])

def readMembers : Nat → List Token → List (Outline × Outline) × Option Flaw × List Token
  | 0, ts => ([], some .truncated, ts)
  | n + 1, ts =>
    let (k, rest) := read n ts
    match rest with
    | .colon :: more =>
      let (v, rest) := read n more
      match rest with
      | .comma :: more =>
        let (ms, stop, after) := readMembers n more
        ((k, v) :: ms, stop, after)
      | .closeObj :: more => ([(k, v)], none, more)
      | [] => ([(k, v)], some .truncated, [])
      | _ => ([(k, v)], some .malformed, [])
    | [] => ([(k, .gap .ending)], some .truncated, [])
    | _ => ([(k, .gap (.badWord .malformed))], some .malformed, [])

end

mutual

/-- a value in memory -/
def ofJson : Json → Outline
  | .null => .null
  | .bool b => .bool b
  | .int n => .number (.int n)
  | .float x => .number (.float x)
  | .str s => .text s
  | .arr items => .arr (ofItems items) none
  | .obj members => .obj (ofMembers members) none

def ofItems : List Json → List Outline
  | [] => []
  | v :: rest => ofJson v :: ofItems rest

def ofMembers : List (String × Json) → List (Outline × Outline)
  | [] => []
  | (k, v) :: rest => (.text k, ofJson v) :: ofMembers rest

end

/-- what is wrong with the place of a key, if it holds no string -/
def keyFlaw : Outline → Option Flaw
  | .text _ => none
  | .ragged rest => rest
  | .gap (.badText f) => some f
  | .gap .ending => some .truncated
  | _ => some .malformed

mutual

/-- pass over a value nobody asks for: only its form counts, so a string need not be text and a number may be huge; a
number that cannot be finished is malformed, even where the text ends -/
def skip : Outline → Except Flaw Unit
  | .ragged (some f) => .error f
  | .arr items stop => do
    skipItems items
    match stop with
    | some f => .error f
    | none => .ok ()
  | .obj members stop => do
    skipMembers members
    match stop with
    | some f => .error f
    | none => .ok ()
  | .gap (.badNumber _) => .error .malformed
  | .gap g => .error g.flaw
  | _ => .ok ()

def skipItems : List Outline → Except Flaw Unit
  | [] => .ok ()
  | v :: rest => do
    skip v
    skipItems rest

def skipMembers : List (Outline × Outline) → Except Flaw Unit
  | [] => .ok ()
  | (k, v) :: rest => do
    match keyFlaw k with
    | some f => .error f
    | none => do
      skip v
      skipMembers rest

end

end Outline

/-- an outline, and whether anything follows it -/
structure Document where
  root : Outline
  surplus : Bool

def Document.ofText (s : String) : Document :=
  let ts := tokens s
  let (root, rest) := Outline.read (2 * ts.length + 2) ts
  { root, surplus := !rest.isEmpty }

end Shardwire.Json
