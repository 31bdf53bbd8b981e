/-
Values as they stand in diagnostics: records with their fields, lists, absent values and durations.

A record is its name with its fields in braces; a record that does not show all its fields ends in two points. A
duration is given in the largest unit in which it is at least one, with as many decimals as it needs.
-/

namespace Shardwire.Text

/-- a field with its value -/
def field (f : String × String) : String := f.1 ++ ": " ++ f.2

/-- a record with all its fields -/
def closedRecord (name : String) (fields : List (String × String)) : String :=
  name ++ " \x7b " ++ String.intercalate ", " (fields.map field) ++ " \x7d"

/-- a record that hides some of its fields -/
def openRecord (name : String) (fields : List (String × String)) : String :=
  name ++ " \x7b " ++ String.intercalate ", " (fields.map field ++ [".."]) ++ " \x7d"

def optional (value : Option String) : String :=
  match value with
  | some s => "Some(" ++ s ++ ")"
  | none => "None"

def listed (values : List String) : String := "[" ++ String.intercalate ", " values ++ "]"

/-- three decimals of a fraction in thousandths, without zeros at the end -/
def thousandths (n : Nat) : String :=
  if n = 0 then ""
  else if n % 100 = 0 then s!".{n / 100}"
  else if n % 10 = 0 then s!".{n / 100}{n / 10 % 10}"
  else s!".{n / 100}{n / 10 % 10}{n % 10}"

/-- a duration in milliseconds -/
def duration (ms : Nat) : String :=
  if 1000 ≤ ms then s!"{ms / 1000}" ++ thousandths (ms % 1000) ++ "s"
  else if ms = 0 then "0ns"
  else s!"{ms}ms"

end Shardwire.Text
