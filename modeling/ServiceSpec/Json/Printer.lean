import ServiceSpec.Decimal.Shortest
import ServiceSpec.Document

/-!
# JSON text

Documents as JSON text: two spaces of indentation, an entry or item a line, and only those
characters escaped that have to be.

## Main definitions

* `Json.quote` : a text between its quotes.
* `Json.render` : a document as a file.
-/

namespace ServiceSpec.Json

/-- A hexadecimal digit in lower case. -/
def hexDigit (n : Nat) : Char :=
  Nat.digitChar (n % 16)

/-- A character inside the quotes. -/
def escapeChar (c : Char) : String :=
  if c = '"' then "\\\""
  else if c = '\\' then "\\\\"
  else if c = '\n' then "\\n"
  else if c = '\r' then "\\r"
  else if c = '\t' then "\\t"
  else if c = '\x08' then "\\b"
  else if c = '\x0c' then "\\f"
  else if c.toNat < 0x20 then
    "\\u00" ++ String.ofList [hexDigit (c.toNat / 16), hexDigit c.toNat]
  else c.toString

/-- A text between its quotes. -/
def quote (s : String) : String :=
  "\"" ++ String.join (s.toList.map escapeChar) ++ "\""

/-- Numbers are positional from five zeros after the point up to sixteen digits before it; an
exponent has a sign. -/
def floatLayout : Decimal.Layout where
  isPositional before := -5 < before && before ≤ 16
  signsExponent := true
  tie := .even

/-- The start of a line at a depth of nesting. -/
def newline (depth : Nat) : String :=
  "\n" ++ String.ofList (List.replicate (2 * depth) ' ')

mutual

/-- A document at a depth of nesting. -/
def write (depth : Nat) : Document → String
  | .null => "null"
  | .bool b => toString b
  | .integer n => toString n
  | .float x => writeFloat floatLayout x
  | .text s => quote s
  | .list [] => "[]"
  | .list (d :: ds) =>
    "[" ++ newline (depth + 1) ++ write (depth + 1) d ++ writeItems (depth + 1) ds ++
      newline depth ++ "]"
  | .object [] => "\x7b\x7d"
  | .object ((key, d) :: entries) =>
    "\x7b" ++ newline (depth + 1) ++ quote key ++ ": " ++ write (depth + 1) d ++
      writeEntries (depth + 1) entries ++ newline depth ++ "\x7d"

/-- The items of a list after the first. -/
def writeItems (depth : Nat) : List Document → String
  | [] => ""
  | d :: ds => "," ++ newline depth ++ write depth d ++ writeItems depth ds

/-- The entries of an object after the first. -/
def writeEntries (depth : Nat) : List (String × Document) → String
  | [] => ""
  | (key, d) :: entries =>
    "," ++ newline depth ++ quote key ++ ": " ++ write depth d ++ writeEntries depth entries

end

/-- A document as a file: its text and the end of the last line. -/
def render (d : Document) : String :=
  write 0 d ++ "\n"

end ServiceSpec.Json
