import Shardwire.Decimal.Shortest
import Shardwire.Json.Value

/-
JSON text.

Compact text: no blanks, members in the order the value lists them. In a string the quote, the backslash and the
characters below the space are escaped, all others stand as they are. Floating numbers have the fewest digits that read
back, written positionally from `1e-5` up to but not including `1e16`.
-/

namespace Shardwire.Json

/-- layout of floating numbers in JSON text -/
def numberText : NumberText := ⟨-5, 16⟩

/-- two lower-case hexadecimal digits -/
def hexByte (n : Nat) : List Char :=
  [Nat.digitChar (n / 16), Nat.digitChar (n % 16)]

/-- a character inside a string -/
def writeChar (c : Char) : List Char :=
  if c = '"' then ['\\', '"']
  else if c = '\\' then ['\\', '\\']
  else if c.toNat = 0x08 then ['\\', 'b']
  else if c.toNat = 0x09 then ['\\', 't']
  else if c.toNat = 0x0A then ['\\', 'n']
  else if c.toNat = 0x0C then ['\\', 'f']
  else if c.toNat = 0x0D then ['\\', 'r']
  else if c.toNat < 0x20 then ['\\', 'u', '0', '0'] ++ hexByte c.toNat
  else [c]

def writeString (s : String) : List Char :=
  '"' :: s.toList.flatMap writeChar ++ ['"']

mutual

def write : Json → List Char
  | .null => "null".toList
  | .bool true => "true".toList
  | .bool false => "false".toList
  | .int n => (toString n).toList
  | .float x => (numberText.render x).toList
  | .str s => writeString s
  | .arr items => '[' :: writeItems items ++ [']']
  | .obj members => '{' :: writeMembers members ++ ['}']

def writeItems : List Json → List Char
  | [] => []
  | [v] => write v
  | v :: rest => write v ++ ',' :: writeItems rest

def writeMembers : List (String × Json) → List Char
  | [] => []
  | [(k, v)] => writeString k ++ ':' :: write v
  | (k, v) :: rest => writeString k ++ ':' :: write v ++ ',' :: writeMembers rest

end

/-- the compact text of a value -/
def render (v : Json) : String :=
  String.ofList (write v)

end Shardwire.Json
