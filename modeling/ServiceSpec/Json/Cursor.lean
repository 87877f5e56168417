import ServiceSpec.Form.Problem
import ServiceSpec.Json.Printer

/-!
# Positions in JSON text

A reader walks over a text and knows its line and column.  Columns count bytes, and a line starts
at column zero.

## Main definitions

* `Json.Grammar` : what can be wrong with the grammar of a text.
* `Json.Error` : what is wrong with a text, and where.
* `Json.Reader` : a reader of a part of a text.
* `Json.located`, `Json.closing` : where an error without a place is put.
-/

namespace ServiceSpec.Json

/-- What can be wrong with the grammar of a text. -/
inductive Grammar where
  | endInValue
  | endInList
  | endInObject
  | endInText
  | expectedColon
  | expectedListEnd
  | expectedObjectEnd
  | expectedWord
  | expectedValue
  | invalidEscape
  | invalidNumber
  | numberOutOfRange
  | controlCharacter
  | keyNotText
  | loneSurrogate
  | unfinishedSurrogate
  | trailingComma
  | trailingText
  | tooDeep
  deriving DecidableEq, Repr

/-- The wording of an error of grammar. -/
def Grammar.message : Grammar → String
  | endInValue => "EOF while parsing a value"
  | endInList => "EOF while parsing a list"
  | endInObject => "EOF while parsing an object"
  | endInText => "EOF while parsing a string"
  | expectedColon => "expected `:`"
  | expectedListEnd => "expected `,` or `]`"
  | expectedObjectEnd => "expected `,` or `\x7d`"
  | expectedWord => "expected ident"
  | expectedValue => "expected value"
  | invalidEscape => "invalid escape"
  | invalidNumber => "invalid number"
  | numberOutOfRange => "number out of range"
  | controlCharacter => "control character (\\u0000-\\u001F) found while parsing a string"
  | keyNotText => "key must be a string"
  | loneSurrogate => "lone leading surrogate in hex escape"
  | unfinishedSurrogate => "unexpected end of hex escape"
  | trailingComma => "trailing comma"
  | trailingText => "trailing characters"
  | tooDeep => "recursion limit exceeded"

/-- A line, counted from one, and the number of bytes before a place in it. -/
structure Position where
  line : Nat
  column : Nat
  deriving DecidableEq, Repr

namespace Position

/-- The place behind a character. -/
def past (p : Position) (c : Char) : Position :=
  if c = '\n' then ⟨p.line + 1, 0⟩ else ⟨p.line, p.column + c.utf8Size⟩

/-- The place one byte into a character. -/
def into (p : Position) (c : Char) : Position :=
  if c = '\n' then ⟨p.line + 1, 0⟩ else ⟨p.line, p.column + 1⟩

/-- The place a number of bytes further on, which may be inside a character. -/
def pastBytes (p : Position) : Nat → List Char → Position
  | _, [] => p
  | n, c :: rest =>
    if c.utf8Size ≤ n then (p.past c).pastBytes (n - c.utf8Size) rest
    else ⟨p.line, p.column + n⟩

end Position

/-- How JSON words what was found. -/
def wording : Wording where
  null := "null"
  float := writeFloat floatLayout

/-- What is wrong with a text. -/
inductive Cause where
  | grammar (error : Grammar)
  | content (problem : Problem)

/-- The wording of a cause. -/
def Cause.message : Cause → String
  | grammar e => e.message
  | content p => p.message wording

/-- What is wrong with a text, and where if that is known. -/
structure Error where
  cause : Cause
  position : Option Position

namespace Error

/-- Gives an error a place unless it has one. -/
def locate (e : Error) (p : Position) : Error :=
  { e with position := some (e.position.getD p) }

/-- The wording of an error. -/
def message (e : Error) : String :=
  match e.position with
  | none => e.cause.message
  | some p => e.cause.message ++ " at line " ++ toString p.line ++ " column " ++ toString p.column

end Error

/-- Where a reader is: the text that is left, its place, and how deep values may still nest. -/
structure Cursor where
  rest : List Char
  position : Position
  room : Nat

/-- The start of a text. -/
def Cursor.ofString (s : String) : Cursor :=
  ⟨s.toList, ⟨1, 0⟩, 128⟩

/-- A reader of a part of a text.  After an error it still knows where it was. -/
abbrev Reader : Type → Type :=
  EStateM Error Cursor

variable {α : Type}

/-- An error of grammar at the cursor. -/
def fail (e : Grammar) : Reader α := fun c =>
  .error ⟨.grammar e, some c.position⟩ c

/-- An error of grammar one byte behind the cursor, if there is one. -/
def failAhead (e : Grammar) : Reader α := fun c =>
  let p := match c.rest with
    | [] => c.position
    | x :: _ => c.position.into x
  .error ⟨.grammar e, some p⟩ c

/-- A problem of content, whose place is not known yet. -/
def raise (p : Problem) : Reader α :=
  throw ⟨.content p, none⟩

/-- What was read, or the problem with it. -/
def ofExcept : Except Problem α → Reader α
  | .ok a => return a
  | .error p => raise p

/-- The next character. -/
def peek : Reader (Option Char) := fun c =>
  .ok c.rest.head? c

/-- Passes the next character. -/
def advance : Reader Unit := fun c =>
  match c.rest with
  | [] => .ok () c
  | x :: rest => .ok () { c with rest, position := c.position.past x }

/-- Whether a character is blank between tokens. -/
def isBlankChar (c : Char) : Bool :=
  c = ' ' || c = '\n' || c = '\t' || c = '\r'

/-- Drops the blanks at the start of a text. -/
def dropBlank : List Char → Position → List Char × Position
  | [], p => ([], p)
  | c :: rest, p => if isBlankChar c then dropBlank rest (p.past c) else (c :: rest, p)

/-- The next character that is not blank, with the cursor on it. -/
def peekToken : Reader (Option Char) := fun c =>
  let (rest, position) := dropBlank c.rest c.position
  .ok rest.head? { c with rest, position }

/-- The next character of a value. -/
def peekValue : Reader Char := do
  match ← peekToken with
  | some c => return c
  | none => failAhead .endInValue

/-- Puts an error without a place where the reader stands when it fails. -/
def located (r : Reader α) : Reader α := fun c =>
  match r c with
  | .ok a c' => .ok a c'
  | .error e c' => .error (e.locate c'.position) c'

/-- Reads the end of a list or object even after an error inside it, so that the reader stands
behind it if it can; the first error counts. -/
def closing (r : Reader α) (close : Reader Unit) : Reader α := fun c =>
  match r c with
  | .ok a c' =>
    match close c' with
    | .ok _ c'' => .ok a c''
    | .error e c'' => .error e c''
  | .error e c' =>
    match close c' with
    | .ok _ c'' | .error _ c'' => .error e c''

/-- Reads one level deeper. -/
def nested (r : Reader α) : Reader α := fun c =>
  match c.room with
  | 0 | 1 => failAhead .tooDeep c
  | room + 1 =>
    match r { c with room } with
    | .ok a c' => .ok a { c' with room := c.room }
    | .error e c' => .error e c'

end ServiceSpec.Json
