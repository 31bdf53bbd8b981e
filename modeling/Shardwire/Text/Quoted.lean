import Shardwire.Text.Printable

/-
Quoted text for diagnostics.

A text is shown between double quotes. The quote and the backslash are written with a backslash in front, tab, line feed,
carriage return and NUL by their letters, any other character with no printed form of its own by its code point in
braces, and all else as it is.
-/

namespace Shardwire.Text

/-- lower-case hexadecimal digits without leading zeros -/
def hexDigits (n : Nat) : String :=
  String.ofList (Nat.toDigits 16 n)

def quoteChar (c : Char) : String :=
  if c = '"' then "\\\""
  else if c = '\\' then "\\\\"
  else if c = '\t' then "\\t"
  else if c = '\r' then "\\r"
  else if c = '\n' then "\\n"
  else if c.toNat = 0 then "\\0"
  else if isPrintable c then c.toString
  else "\\u\x7b" ++ hexDigits c.toNat ++ "\x7d"

/-- a text as it stands in diagnostics -/
def quote (s : String) : String :=
  "\"" ++ String.join (s.toList.map quoteChar) ++ "\""

end Shardwire.Text
