import ServiceSpec.Text.PrintableTable

/-!
# Text shown in messages

A message that shows a text puts it in double quotes and replaces what would not be seen: the quote
and the backslash are escaped, the usual control characters have a letter, and any other character
without a visible form is written by its code.

## Main definitions

* `Quoted.encode` : the text between its quotes.
* `Quoted.needsCode` : the characters written by their code.
-/

namespace ServiceSpec.Text.Quoted

/-- Whether some range of the table, ends included, holds the number. -/
def inRanges (table : Array (Nat × Nat)) (n : Nat) : Bool :=
  table.any fun r => r.1 ≤ n && n ≤ r.2

/-- Whether a character is written by its code: it has no visible form of its own. -/
def needsCode (c : Char) : Bool :=
  let n := c.toNat
  if n < 0x80 then n < 0x20 || n == 0x7f
  else inRanges PrintableTable.graphemeExtend n || inRanges PrintableTable.unprintable n

/-- A character inside the quotes. -/
def encodeChar (c : Char) : String :=
  if c = '\x00' then "\\0"
  else if c = '\t' then "\\t"
  else if c = '\r' then "\\r"
  else if c = '\n' then "\\n"
  else if c = '\\' then "\\\\"
  else if c = '"' then "\\\""
  else if needsCode c then "\\u\x7b" ++ String.ofList (Nat.toDigits 16 c.toNat) ++ "\x7d"
  else c.toString

/-- The text between double quotes. -/
def encode (s : String) : String :=
  "\"" ++ String.join (s.toList.map encodeChar) ++ "\""

end ServiceSpec.Text.Quoted
