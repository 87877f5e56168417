import ServiceSpec.Document
import ServiceSpec.Json.Printer
import ServiceSpec.Yaml.Scalar

/-!
# YAML text

Documents as YAML text in block style: two spaces of indentation, items of a list under the key
they belong to, and every text in the plainest style that reads back.

## Main definitions

* `Yaml.Traits` : what about a text decides its style.
* `Yaml.Style` : the styles of texts, and `Yaml.styleOf` the style of a text.
* `Yaml.render` : a document as a file.
-/

namespace ServiceSpec.Yaml

/-- The line breaks of YAML. -/
def isBreak (c : Char) : Bool :=
  c = '\n' || c = '\r' || c = '\u0085' || c = '\u2028' || c = '\u2029'

/-- Characters that separate tokens. -/
def isSpacing (c : Char) : Bool :=
  c = ' ' || c = '\t' || c = '\x00' || isBreak c

/-- Characters that are written as they are. -/
def isPrintable (c : Char) : Bool :=
  let n := c.toNat
  n = 0x0a || (0x20 ≤ n && n ≤ 0x7e) || (0xa0 ≤ n && n ≠ 0xfeff && n ≠ 0xfffe && n ≠ 0xffff)

/-- Characters that have a meaning at the start of a scalar. -/
def isIndicator (c : Char) : Bool :=
  "#,[]\x7b\x7d&*!|>'\"%@`".toList.contains c

/-- Whether what follows a character separates it from other tokens. -/
def isFollowedBySpacing : List Char → Bool
  | [] => true
  | c :: _ => isSpacing c

/-- Whether a character behind the first could be read as the end of a plain scalar. -/
def endsPlain : Char → List Char → Bool
  | _, [] => false
  | before, c :: rest =>
    (c = ':' && isFollowedBySpacing rest) || (c = '#' && isSpacing before) || endsPlain c rest

/-- Whether a text would be read as something else than a plain scalar. -/
def startsOtherwise : List Char → Bool
  | '-' :: '-' :: '-' :: _ | '.' :: '.' :: '.' :: _ => true
  | c :: rest =>
    isIndicator c || ((c = '?' || c = ':' || c = '-') && isFollowedBySpacing rest)
  | [] => true

/-- Whether two characters of these classes follow each other. -/
def hasPair (p q : Char → Bool) : List Char → Bool
  | a :: b :: rest => (p a && q b) || hasPair p q (b :: rest)
  | _ => false

/-- What about a text decides its style. -/
structure Traits where
  /-- It looks like something else when written plainly. -/
  looksOtherwise : Bool
  /-- A space or line break stands at one of its ends. -/
  hasBareEnd : Bool
  endsInSpace : Bool
  hasBreak : Bool
  /-- A space follows a line break. -/
  hasBreakSpace : Bool
  /-- A space precedes a line break, or a character cannot be written as it is. -/
  needsEscape : Bool

/-- The traits of a text. -/
def Traits.of (cs : List Char) : Traits where
  looksOtherwise := startsOtherwise cs || match cs with
    | [] => false
    | c :: rest => endsPlain c rest
  hasBareEnd :=
    cs.head?.any (fun c => c = ' ' || isBreak c) ||
      cs.getLast?.any (fun c => c = ' ' || isBreak c)
  endsInSpace := cs.getLast? = some ' '
  hasBreak := cs.any isBreak
  hasBreakSpace := hasPair isBreak (· = ' ') cs
  needsEscape := hasPair (· = ' ') isBreak cs || cs.any (!isPrintable ·)

/-- The styles of texts. -/
inductive Style where
  | plain
  | singleQuoted
  | doubleQuoted
  | literal
  deriving DecidableEq, Repr

/-- The style of a text: a literal block if it has several lines, else plain if it is not taken for
something else, else in single quotes; in double quotes where those cannot show it. -/
def styleOf (s : String) : Style :=
  let t := Traits.of s.toList
  let single := if t.hasBreakSpace || t.needsEscape then .doubleQuoted else .singleQuoted
  if s.toList.contains '\n' then
    if t.endsInSpace || t.needsEscape then .doubleQuoted else .literal
  else if isAmbiguous s then single
  else if t.looksOtherwise || t.hasBareEnd || t.hasBreak || t.needsEscape then single
  else .plain

/-- Spaces up to a column. -/
def spaces (n : Nat) : String :=
  String.ofList (List.replicate n ' ')

/-- The letter of an escape. -/
def escapeLetter? (c : Char) : Option Char :=
  [('\x00', '0'), ('\x07', 'a'), ('\x08', 'b'), ('\t', 't'), ('\n', 'n'), ('\x0b', 'v'),
    ('\x0c', 'f'), ('\r', 'r'), ('\x1b', 'e'), ('"', '"'), ('\\', '\\'), ('\u0085', 'N'),
    ('\u2028', 'L'), ('\u2029', 'P')].lookup c

/-- A number in hexadecimal digits of a fixed count, the last digit last. -/
def hexDigits : Nat → Nat → List Char
  | 0, _ => []
  | count + 1, n => hexDigits count (n / 16) ++ [(Nat.digitChar (n % 16)).toUpper]

/-- A character between double quotes. -/
def escapeChar (c : Char) : String :=
  match escapeLetter? c with
  | some l => String.ofList ['\\', l]
  | none =>
    let n := c.toNat
    if isPrintable c then c.toString
    else if n ≤ 0xff then String.ofList ('\\' :: 'x' :: hexDigits 2 n)
    else if n ≤ 0xffff then String.ofList ('\\' :: 'u' :: hexDigits 4 n)
    else String.ofList ('\\' :: 'U' :: hexDigits 8 n)

/-- A text between double quotes. -/
def doubleQuoted (s : String) : String :=
  "\"" ++ String.join (s.toList.map escapeChar) ++ "\""

/-- The lines of a block: a line break is written as it is, and what follows it is indented. -/
def indented (indent : Nat) (double : Char → String) : Bool → List Char → String
  | _, [] => ""
  | atStart, c :: rest =>
    if isBreak c then c.toString ++ indented indent double true rest
    else (if atStart then spaces indent else "") ++ double c ++ indented indent double false rest

/-- A text between single quotes, its quotes doubled. -/
def singleQuoted (indent : Nat) (s : String) : String :=
  "'" ++ indented indent (fun c => if c = '\'' then "''" else c.toString) false s.toList ++
    (if s.toList.getLast?.any isBreak then spaces indent else "") ++ "'"

/-- How a literal block says that its last line breaks are not the usual single one. -/
def chomping (cs : List Char) : String :=
  match cs.reverse with
  | [] => "-"
  | [c] => if isBreak c then "+" else "-"
  | c :: c' :: _ => if isBreak c then (if isBreak c' then "+" else "") else "-"

/-- A text as a literal block. -/
def literal (indent : Nat) (s : String) : String :=
  "|" ++ (if s.toList.head?.any (fun c => c = ' ' || isBreak c) then "2" else "") ++
    chomping s.toList ++ "\n" ++ indented indent (·.toString) true s.toList

/-- A text in its style.  Lines after the first are indented. -/
def writeText (indent : Nat) (s : String) : String :=
  match styleOf s with
  | .plain => s
  | .singleQuoted => singleQuoted indent s
  | .doubleQuoted => doubleQuoted s
  | .literal => literal indent s

/-- Numbers are positional where they are in JSON; an exponent has a sign only if it is negative. -/
def floatLayout : Decimal.Layout :=
  { Json.floatLayout with signsExponent := false }

/-- A floating point number. -/
def writeNumber (x : Float) : String :=
  if x.isNaN then ".nan"
  else if x.isInf then (if 0 < x then ".inf" else "-.inf")
  else writeFloat floatLayout x

/-- Whether a key stands before its colon on one line. -/
def isSimpleKey (key : String) : Bool :=
  key.utf8ByteSize ≤ 128 && !key.toList.any isBreak

/-- Ends a line, unless a block has done so. -/
def endLine (s : String) : String :=
  if s.toList.getLast?.any isBreak then s else s ++ "\n"

/-- Texts below each other at a column. -/
def stack (column : Nat) : List String → String
  | [] => ""
  | [s] => s
  | s :: rest => endLine s ++ spaces column ++ stack column rest

mutual

/-- What follows a dash, or the colon of a key that is not simple, at a column. -/
def writeBeside (column : Nat) : Document → String
  | .null => " null"
  | .bool b => " " ++ toString b
  | .integer n => " " ++ toString n
  | .float x => " " ++ writeNumber x
  | .text s => " " ++ writeText (column + 2) s
  | .list items =>
    if items.isEmpty then " []" else " " ++ stack (column + 2) (writeItems (column + 2) items)
  | .object entries =>
    if entries.isEmpty then " \x7b\x7d"
    else " " ++ stack (column + 2) (writeEntries (column + 2) entries)

/-- What follows a simple key and its colon, at the column of the key: a list starts there again,
an object two columns deeper. -/
def writeBelow (column : Nat) : Document → String
  | .null => " null"
  | .bool b => " " ++ toString b
  | .integer n => " " ++ toString n
  | .float x => " " ++ writeNumber x
  | .text s => " " ++ writeText (column + 2) s
  | .list items =>
    if items.isEmpty then " []"
    else "\n" ++ spaces column ++ stack column (writeItems column items)
  | .object entries =>
    if entries.isEmpty then " \x7b\x7d"
    else "\n" ++ spaces (column + 2) ++ stack (column + 2) (writeEntries (column + 2) entries)

/-- The items of a list at a column. -/
def writeItems (column : Nat) : List Document → List String
  | [] => []
  | d :: ds => ("-" ++ writeBeside column d) :: writeItems column ds

/-- The entries of an object at a column. -/
def writeEntries (column : Nat) : List (String × Document) → List String
  | [] => []
  | (key, d) :: entries =>
    (if isSimpleKey key then writeText (column + 2) key ++ ":" ++ writeBelow column d
    else
      endLine ("? " ++ writeText (column + 2) key) ++ spaces column ++ ":" ++
        writeBeside column d) ::
    writeEntries column entries

end

/-- A document as a file. -/
def render : Document → String
  | .null => "null\n"
  | .bool b => toString b ++ "\n"
  | .integer n => toString n ++ "\n"
  | .float x => writeNumber x ++ "\n"
  | .text s => endLine (writeText 2 s)
  | .list items => if items.isEmpty then "[]\n" else endLine (stack 0 (writeItems 0 items))
  | .object entries =>
    if entries.isEmpty then "\x7b\x7d\n" else endLine (stack 0 (writeEntries 0 entries))

end ServiceSpec.Yaml
