import ServiceSpec.Yaml.Token.Scalar
import ServiceSpec.Yaml.Token.Tag

/-!
# The tokens of a YAML text

Indentation opens and closes blocks, and a colon makes a key of what stands before it on its line.
So a token that may turn out to start a key is held back, with all tokens behind it, until the
question is settled.

## Main definitions

* `Yaml.Scan` : the state of reading tokens.
* `Yaml.Scan.fetch` : the next token is read.
* `Yaml.tokens` : the tokens of a text, up to its end or the first fault.
-/

namespace ServiceSpec.Yaml

/-- A place where a key may have started. -/
structure KeyStart where
  /-- Whether there must be one: the indentation calls for it. -/
  isRequired : Bool
  /-- How many tokens stand before it. -/
  before : Nat
  mark : Mark

/-- The state of reading tokens. -/
structure Scan where
  cursor : Cursor
  barrier : Option Barrier := none
  /-- The tokens that are settled, last first. -/
  settled : List Token := []
  /-- How many tokens are settled. -/
  settledCount : Nat := 0
  /-- The tokens that are held back, first first. -/
  held : List Token := []
  /-- Whether a key may start here. -/
  allowsKey : Bool := true
  /-- The column of the innermost block; there is none at -1. -/
  indent : Int := -1
  /-- The columns of the blocks around it, innermost first. -/
  outerIndents : List Int := []
  /-- The possible key of this level of flow style, and of those around it, innermost first. -/
  keys : List (Option KeyStart) := [none]
  isDone : Bool := false

namespace Scan

/-- Whether the cursor is inside a list or map in flow style. -/
def inFlow (s : Scan) : Bool :=
  1 < s.keys.length

/-- The number of tokens so far. -/
def count (s : Scan) : Nat :=
  s.settledCount + s.held.length

/-- Adds a token. -/
def push (s : Scan) (t : Token) : Scan :=
  { s with held := s.held ++ [t] }

/-- Adds a token before which a number of tokens stand. -/
def insertAt (s : Scan) (before : Nat) (t : Token) : Scan :=
  { s with held := s.held.insertIdx (before - s.settledCount) t }

/-- Adds a token of some characters at the cursor, and passes them. -/
def pushMark (s : Scan) (kind : TokenKind) (width : Nat) : Scan :=
  let c := s.cursor.skipMany width
  { s.push ⟨kind, s.cursor.mark, c.mark⟩ with cursor := c }

/-- The possible key of the innermost level. -/
def key? (s : Scan) : Option KeyStart :=
  s.keys.head?.join

/-- Changes the possible key of the innermost level. -/
def setKey (s : Scan) (key : Option KeyStart) : Scan :=
  { s with keys := key :: s.keys.drop 1 }

/-- A required key that has no colon. -/
def missingColon (s : Scan) (key : KeyStart) : Fault :=
  { defect := .noColon, mark := s.cursor.mark, activity := some (.simpleKey, key.mark) }

/-- Gives up the possible key of the innermost level. -/
def dropKey (s : Scan) : Except Fault Scan :=
  match s.key? with
  | some key => if key.isRequired then .error (s.missingColon key) else .ok (s.setKey none)
  | none => .ok s

/-- Notes that a key may start here. -/
def noteKey (s : Scan) : Except Fault Scan :=
  if s.allowsKey then do
    let s' ← s.dropKey
    return s'.setKey (some
      { isRequired := !s.inFlow && s.indent = s.cursor.mark.column
        before := s.count
        mark := s.cursor.mark })
  else .ok s

/-- Whether a possible key is on an earlier line or more than 1024 bytes back. -/
def isStale (s : Scan) (key : KeyStart) : Bool :=
  key.mark.line < s.cursor.mark.line || key.mark.index + 1024 < s.cursor.mark.index

/-- The possible keys that are not stale, given outermost first. -/
def freshKeys (s : Scan) : List (Option KeyStart) → Except Fault (List (Option KeyStart))
  | [] => .ok []
  | none :: rest => do return none :: (← s.freshKeys rest)
  | some key :: rest =>
    if s.isStale key then
      if key.isRequired then .error (s.missingColon key)
      else do return none :: (← s.freshKeys rest)
    else do return some key :: (← s.freshKeys rest)

/-- Gives up the possible keys that are stale. -/
def dropStaleKeys (s : Scan) : Except Fault Scan := do
  return { s with keys := (← s.freshKeys s.keys.reverse).reverse }

/-- Opens a block at a column, unless one is open there. -/
def openBlock (s : Scan) (column : Nat) (kind : TokenKind) (mark : Mark)
    (before : Option Nat := none) : Scan :=
  if s.inFlow || (column : Int) ≤ s.indent then s
  else
    let s' := { s with indent := column, outerIndents := s.indent :: s.outerIndents }
    let t : Token := ⟨kind, mark, mark⟩
    match before with
    | some n => s'.insertAt n t
    | none => s'.push t

/-- The columns of the blocks that stay open at a column, innermost first, and how many are
closed. -/
def closing (column : Int) : Int → List Int → Int × List Int × Nat
  | indent, [] => (indent, [], 0)
  | indent, outer :: rest =>
    if column < indent then
      let (indent', rest', n) := closing column outer rest
      (indent', rest', n + 1)
    else (indent, outer :: rest, 0)

/-- Closes the blocks that are deeper than a column. -/
def closeBlocks (s : Scan) (column : Int) : Scan :=
  if s.inFlow then s
  else
    let (indent, outerIndents, n) := closing column s.indent s.outerIndents
    { s with
      indent
      outerIndents
      held := s.held ++ List.replicate n ⟨.blockEnd, s.cursor.mark, s.cursor.mark⟩ }

/-- Passes blanks, comments and line breaks before a token. -/
def skipGap : Nat → Scan → Scan
  | 0, s => s
  | fuel + 1, s =>
    let tabs := s.inFlow || !s.allowsKey
    let c := s.cursor.skipByteOrderMark
    let c' := (c.skipWhile fun x => x = ' ' || (tabs && x = '\t')).skipComment
    if c'.has isBreak then
      skipGap fuel { s with cursor := c'.skipLine, allowsKey := s.allowsKey || !s.inFlow }
    else { s with cursor := c' }

/-- A fault of a token that must not stand here. -/
def notAllowed (s : Scan) (defect : Defect) : Except Fault Scan :=
  .error { defect, mark := s.cursor.mark }

/-- The end of the text.  It counts as a new line. -/
def fetchEnd (s : Scan) : Except Fault Scan := do
  let m := s.cursor.mark
  let mark := if m.column = 0 then m else ⟨m.index, m.line + 1, 0⟩
  let s' ← ({ s with cursor := { s.cursor with mark } }.closeBlocks (-1)).dropKey
  return { s'.push ⟨.streamEnd, mark, mark⟩ with allowsKey := false, isDone := true }

/-- A directive. -/
def fetchDirective (s : Scan) : Except Fault Scan := do
  let s' ← (s.closeBlocks (-1)).dropKey
  let (t, cursor) ← scanDirective s'.cursor
  return { s'.push t with cursor, allowsKey := false }

/-- A mark between documents. -/
def fetchDocumentMark (s : Scan) (kind : TokenKind) : Except Fault Scan := do
  let s' ← (s.closeBlocks (-1)).dropKey
  return { s'.pushMark kind 3 with allowsKey := false }

/-- The start of a list or map in flow style. -/
def fetchFlowStart (s : Scan) (kind : TokenKind) : Except Fault Scan := do
  let s' ← s.noteKey
  return { s'.pushMark kind 1 with keys := none :: s'.keys, allowsKey := true }

/-- The end of a list or map in flow style. -/
def fetchFlowEnd (s : Scan) (kind : TokenKind) : Except Fault Scan := do
  let s' ← s.dropKey
  let keys := if s'.inFlow then s'.keys.drop 1 else s'.keys
  return { s'.pushMark kind 1 with keys, allowsKey := false }

/-- A comma in flow style. -/
def fetchFlowEntry (s : Scan) : Except Fault Scan := do
  let s' ← s.dropKey
  return { s'.pushMark .flowEntry 1 with allowsKey := true }

/-- The dash of an item. -/
def fetchBlockEntry (s : Scan) : Except Fault Scan := do
  let m := s.cursor.mark
  if !s.inFlow && !s.allowsKey then s.notAllowed .listNotAllowed
  else
    let s' ← (s.openBlock m.column .blockListStart m).dropKey
    return { s'.pushMark .blockEntry 1 with allowsKey := true }

/-- The question mark of a key. -/
def fetchKey (s : Scan) : Except Fault Scan := do
  let m := s.cursor.mark
  if !s.inFlow && !s.allowsKey then s.notAllowed .keyNotAllowed
  else
    let s' ← (s.openBlock m.column .blockMapStart m).dropKey
    return { s'.pushMark .key 1 with allowsKey := !s.inFlow }

/-- The colon of a value.  What stands before it on the line becomes a key. -/
def fetchValue (s : Scan) : Except Fault Scan :=
  match s.key? with
  | some key =>
    let s' := s.insertAt key.before ⟨.key, key.mark, key.mark⟩
    let s'' := (s'.openBlock key.mark.column .blockMapStart key.mark (some key.before)).setKey none
    .ok { s''.pushMark .value 1 with allowsKey := false }
  | none =>
    let m := s.cursor.mark
    if !s.inFlow && !s.allowsKey then s.notAllowed .valueNotAllowed
    else
      let s' := s.openBlock m.column .blockMapStart m
      .ok { s'.pushMark .value 1 with allowsKey := !s.inFlow }

/-- A token that may start a key. -/
def fetchPart (s : Scan) (scan : Cursor → Except Fault (Token × Cursor)) : Except Fault Scan := do
  let s' ← s.noteKey
  let (t, cursor) ← scan s'.cursor
  return { s'.push t with cursor, allowsKey := false }

/-- A literal or folded block. -/
def fetchBlock (s : Scan) (isLiteral : Bool) : Except Fault Scan := do
  let s' ← s.dropKey
  let (t, cursor) ← scanBlock isLiteral s'.indent s'.cursor
  return { s'.push t with cursor, allowsKey := true }

/-- A plain scalar.  A key may start behind it if a line break follows it. -/
def fetchPlain (s : Scan) : Except Fault Scan := do
  let s' ← s.noteKey
  let (t, cursor, isBroken) ← scanPlain s'.inFlow s'.indent s'.cursor
  return { s'.push t with cursor, allowsKey := isBroken }

/-- Whether a plain scalar starts at the cursor. -/
def startsPlain (s : Scan) (x : Char) : Bool :=
  let c := s.cursor
  !("-?:,[]\x7b\x7d#&*!|>'\"%@`".toList.contains x || isBlank x || isBreak x) ||
    (x = '-' && !c.has isBlank 1) || (!s.inFlow && (x = '?' || x = ':') && !c.hasGap 1)

/-- The token at the cursor. -/
def fetchAt (s : Scan) (x : Char) : Except Fault Scan :=
  let c := s.cursor
  if c.mark.column = 0 && x = '%' then s.fetchDirective
  else if c.isAtDocumentMark then
    s.fetchDocumentMark (if x = '-' then .documentStart else .documentEnd)
  else if x = '[' then s.fetchFlowStart .flowListStart
  else if x = '\x7b' then s.fetchFlowStart .flowMapStart
  else if x = ']' then s.fetchFlowEnd .flowListEnd
  else if x = '\x7d' then s.fetchFlowEnd .flowMapEnd
  else if x = ',' then s.fetchFlowEntry
  else if x = '-' && c.hasGap 1 then s.fetchBlockEntry
  else if x = '?' && (s.inFlow || c.hasGap 1) then s.fetchKey
  else if x = ':' && (s.inFlow || c.hasGap 1) then s.fetchValue
  else if x = '*' then s.fetchPart (scanAnchor true)
  else if x = '&' then s.fetchPart (scanAnchor false)
  else if x = '!' then s.fetchPart (scanTag s.inFlow)
  else if x = '|' && !s.inFlow then s.fetchBlock true
  else if x = '>' && !s.inFlow then s.fetchBlock false
  else if x = '\'' then s.fetchPart (scanQuoted true)
  else if x = '"' then s.fetchPart (scanQuoted false)
  else if s.startsPlain x then s.fetchPlain
  else c.fault .nextToken c.mark .strayCharacter

/-- Reads the next token as if there were no barrier. -/
def fetchFreely (s : Scan) : Except Fault Scan := do
  let s ← (skipGap (s.cursor.rest.length + 1) s).dropStaleKeys
  let s := s.closeBlocks s.cursor.mark.column
  match s.cursor.rest with
  | [] => s.fetchEnd
  | x :: _ => s.fetchAt x

/-- Reads the next token.  Neither a token nor a fault counts that reaches the barrier. -/
def fetch (s : Scan) : Except Fault Scan :=
  match s.barrier, s.fetchFreely with
  | none, result => result
  | some b, .ok s' => if b.isReached s'.cursor.mark then .error b.fault else .ok s'
  | some b, .error f => .error (if b.isReached f.mark then b.fault else f)

/-- Whether the first token that is held back may still turn out to start a key. -/
def isOpen (s : Scan) : Bool :=
  s.keys.any fun key => key.any fun key => key.before = s.settledCount

/-- Settles the tokens that are held back without need. -/
def settle : Nat → Scan → Except Fault Scan
  | 0, s => .ok s
  | fuel + 1, s =>
    match s.held with
    | [] => .ok s
    | t :: held => do
      let s' ← s.dropStaleKeys
      if s'.isOpen then return s'
      else
        settle fuel
          { s' with settled := t :: s'.settled, settledCount := s'.settledCount + 1, held }

/-- Reads tokens up to the end of the text or the first fault. -/
def run : Nat → Scan → List Token × Option Fault
  | 0, s => (s.settled.reverse, none)
  | fuel + 1, s =>
    match settle (s.held.length + 1) s with
    | .error f => (s.settled.reverse, some f)
    | .ok s' =>
      if s'.isDone && s'.held.isEmpty then (s'.settled.reverse, none)
      else
        match s'.fetch with
        | .error f => (s'.settled.reverse, some f)
        | .ok s'' => run fuel s''

end Scan

/-- The tokens of a text, up to its end or the first fault. -/
def tokens (text : String) : List Token × Option Fault :=
  Scan.run (text.length + 8) { cursor := .ofString text, barrier := Barrier.of? text }

end ServiceSpec.Yaml
