import ServiceSpec.Yaml.Fault
import ServiceSpec.Yaml.Printer

/-!
# Walking over YAML text

A cursor is a place in a text with the characters that are left.

## Main definitions

* `Yaml.Cursor` : the text that is left, and its place.
* `Cursor.skip`, `Cursor.skipLine` : the next character, or the next line break, passed.
* `Barrier` : where a text that holds a character that no text may hold cannot be read any more.
-/

namespace ServiceSpec.Yaml

/-- A space or a tab. -/
def isBlank (c : Char) : Bool :=
  c = ' ' || c = '\t'

/-- Characters of names: of anchors, handles and directives. -/
def isNameChar (c : Char) : Bool :=
  c.isAlphanum || c = '_' || c = '-'

/-- Characters that a text may hold. -/
def isAllowed (c : Char) : Bool :=
  let n := c.toNat
  n = 0x09 || n = 0x0a || n = 0x0d || (0x20 ≤ n && n ≤ 0x7e) || n = 0x85 ||
    (0xa0 ≤ n && n ≠ 0xfffe && n ≠ 0xffff)

/-! ## Portions -/

/-- How many bytes of a text are read at once. -/
def portionSize : Nat := 16384

/-- The number of bytes in some characters, and of those before the portion that the last of them
is in.  A portion is as long as it can be without cutting a character in two. -/
def portionOf (cs : List Char) : Nat × Nat :=
  cs.foldl
    (fun (size, start) c =>
      let size' := size + c.utf8Size
      (size', if start + portionSize < size' then size else start))
    (0, 0)

/-- A place that a text cannot be read beyond. -/
structure Barrier where
  /-- How many bytes stand before it. -/
  start : Nat
  fault : Fault

/-- The barrier of a text.  A character that no text may hold spoils the portion it is in. -/
def Barrier.of? (s : String) : Option Barrier :=
  let before := s.toList.takeWhile isAllowed
  (s.toList[before.length]?).map fun c =>
    { start := (portionOf (before ++ [c])).2
      fault :=
        { defect := .controlCharacter, mark := {}, offset := (String.ofList before).utf8ByteSize } }

/-- Whether a token that ends at a mark reaches the barrier: what follows it is looked at to tell
where it ends. -/
def Barrier.isReached (b : Barrier) (m : Mark) : Bool :=
  b.start < m.index + 4

/-! ## Cursors -/

/-- The text that is left, and its place. -/
structure Cursor where
  rest : List Char
  mark : Mark := {}

namespace Cursor

/-- The start of a text. -/
def ofString (s : String) : Cursor :=
  ⟨s.toList, {}⟩

/-- Whether the text is at its end. -/
def isAtEnd (c : Cursor) : Bool :=
  c.rest.isEmpty

/-- Whether the next character is this one. -/
def isAt (c : Cursor) (x : Char) : Bool :=
  c.rest.head? = some x

/-- Whether a character stands at a distance, and has a property. -/
def has (c : Cursor) (p : Char → Bool) (distance : Nat := 0) : Bool :=
  c.rest[distance]?.any p

/-- Whether a blank, a line break or the end of the text stands at a distance. -/
def hasGap (c : Cursor) (distance : Nat := 0) : Bool :=
  c.rest[distance]?.all fun x => isBlank x || isBreak x

/-- Whether a line break or the end of the text comes next. -/
def isAtLineEnd (c : Cursor) : Bool :=
  c.rest.head?.all isBreak

/-- Passes a character that is no line break. -/
def skip (c : Cursor) : Cursor :=
  match c.rest with
  | x :: rest => ⟨rest, c.mark.past x⟩
  | [] => c

/-- Passes characters that are no line breaks. -/
def skipMany (c : Cursor) (n : Nat) : Cursor :=
  ⟨c.rest.drop n, c.mark.pastAll (c.rest.take n)⟩

/-- The characters of a kind that come next. -/
def run (c : Cursor) (p : Char → Bool) : List Char :=
  c.rest.takeWhile p

/-- Passes the characters of a kind that come next; none of them is a line break. -/
def skipWhile (c : Cursor) (p : Char → Bool) : Cursor :=
  ⟨c.rest.dropWhile p, c.mark.pastAll (c.run p)⟩

/-- Passes the byte order mark that a line may start with. -/
def skipByteOrderMark (c : Cursor) : Cursor :=
  if c.mark.column = 0 && c.isAt '\uFEFF' then c.skip else c

/-- Passes the rest of a line. -/
def skipToLineEnd (c : Cursor) : Cursor :=
  c.skipWhile fun x => !isBreak x

/-- Passes a comment. -/
def skipComment (c : Cursor) : Cursor :=
  if c.isAt '#' then c.skipToLineEnd else c

/-- Passes a line break, and gives the text it stands for: all but two of them are a newline. -/
def readLine (c : Cursor) : List Char × Cursor :=
  match c.rest with
  | '\r' :: '\n' :: rest => (['\n'], ⟨rest, c.mark.nextLine 2⟩)
  | x :: rest =>
    if isBreak x then
      ([if x = '\u2028' || x = '\u2029' then x else '\n'], ⟨rest, c.mark.nextLine x.utf8Size⟩)
    else ([], c)
  | [] => ([], c)

/-- Passes a line break. -/
def skipLine (c : Cursor) : Cursor :=
  c.readLine.2

/-- Whether a mark between documents stands at the start of this line. -/
def isAtDocumentMark (c : Cursor) : Bool :=
  c.mark.column = 0 &&
    (c.rest.take 3 = ['-', '-', '-'] || c.rest.take 3 = ['.', '.', '.']) && c.hasGap 3

/-- A fault at the cursor, while something was read that starts at a mark. -/
def fault {α : Type} (c : Cursor) (activity : Activity) (start : Mark) (defect : Defect) :
    Except Fault α :=
  .error { defect, mark := c.mark, activity := some (activity, start) }

end Cursor

end ServiceSpec.Yaml
