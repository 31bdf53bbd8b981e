import Shardwire.Decimal.Double

/-
JSON values.

Integers and floating numbers are apart: an integer is exact, any other number is a binary64 number. The members of an
object are a list. A value that is passed through untouched keeps its members in ascending order of their keys, each
key once (`canonical`, `object`); a value that is written field by field keeps the order of the fields.
-/

namespace Shardwire

inductive Json where
  | null
  | bool (b : Bool)
  | int (n : Int)
  | float (x : Double)
  | str (s : String)
  | arr (items : List Json)
  | obj (members : List (String × Json))
  deriving Inhabited

namespace Json

/-- put a member at its place, in place of an earlier one of the same key -/
def insertMember (key : String) (value : Json) : List (String × Json) → List (String × Json)
  | [] => [(key, value)]
  | (k, v) :: rest =>
    if key = k then (key, value) :: rest
    else if key < k then (key, value) :: (k, v) :: rest
    else (k, v) :: insertMember key value rest

/-- members in ascending order of their keys; of equal keys the last one stays -/
def sortMembers (members : List (String × Json)) : List (String × Json) :=
  members.foldl (fun acc m => insertMember m.1 m.2 acc) []

/-- the object of some members -/
def object (members : List (String × Json)) : Json :=
  .obj (sortMembers members)

mutual

/-- the same value with every object in ascending order of its keys -/
def canonical : Json → Json
  | .arr items => .arr (canonicalItems items)
  | .obj members => .obj (sortMembers (canonicalMembers members))
  | v => v

def canonicalItems : List Json → List Json
  | [] => []
  | v :: rest => canonical v :: canonicalItems rest

def canonicalMembers : List (String × Json) → List (String × Json)
  | [] => []
  | (k, v) :: rest => (k, canonical v) :: canonicalMembers rest

end

/-- the value of a 64-bit word -/
def word (n : UInt64) : Json := .int n.toNat

/-- the integers that are 64-bit words -/
def word? : Json → Option UInt64
  | .int n => if 0 ≤ n ∧ n < UInt64.size then some (UInt64.ofNat n.toNat) else none
  | _ => none

def bool? : Json → Option Bool
  | .bool b => some b
  | _ => none

/-- a value or null -/
def ofOption {α : Type} (f : α → Json) : Option α → Json
  | none => .null
  | some a => f a

end Json

end Shardwire
