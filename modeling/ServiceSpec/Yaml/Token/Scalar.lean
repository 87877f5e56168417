import ServiceSpec.Yaml.Token

/-!
# Scalars in YAML text

Line breaks inside a scalar that is folded stand for spaces: a single one for a space, several for
all but the first.

## Main definitions

* `Yaml.scanPlain` : a plain scalar.
* `Yaml.scanQuoted` : a scalar in single or double quotes.
* `Yaml.scanBlock` : a literal or folded block.
-/

namespace ServiceSpec.Yaml

/-- Blanks and line breaks inside a scalar: the blanks before the first break, the first break, and
the others. -/
structure Gap where
  blanks : List Char := []
  firstBreak : List Char := []
  otherBreaks : List Char := []
  /-- Whether a line break was passed. -/
  isBroken : Bool := false

namespace Gap

/-- What a gap stands for. -/
def text (g : Gap) : List Char :=
  if g.isBroken then
    if g.firstBreak = ['\n'] then
      if g.otherBreaks.isEmpty then [' '] else g.otherBreaks
    else g.firstBreak ++ g.otherBreaks
  else g.blanks

/-- A gap with a further line break. -/
def addBreak (g : Gap) (text : List Char) : Gap :=
  if g.isBroken then { g with otherBreaks := g.otherBreaks ++ text }
  else { g with blanks := [], firstBreak := text, isBroken := true }

end Gap

/-- Passes blanks and line breaks.  Blanks after a line break do not count.  `violates` tells which
of them must not stand where they are. -/
def scanGap (violates : Cursor → Bool → Bool) (bad : Cursor → Fault) :
    Nat → Gap → Cursor → Except Fault (Gap × Cursor)
  | 0, g, c => .ok (g, c)
  | fuel + 1, g, c =>
    match c.rest with
    | [] => .ok (g, c)
    | x :: _ =>
      if isBlank x then
        if violates c g.isBroken then .error (bad c)
        else
          scanGap violates bad fuel
            (if g.isBroken then g else { g with blanks := g.blanks ++ [x] }) c.skip
      else if isBreak x then
        let (text, c') := c.readLine
        scanGap violates bad fuel (g.addBreak text) c'
      else .ok (g, c)

/-! ## Plain scalars -/

/-- Whether a character ends a plain scalar where it stands. -/
def endsPlainAt (inFlow : Bool) (c : Cursor) : Bool :=
  (c.isAt ':' && c.hasGap 1) || (inFlow && c.has ",[]\x7b\x7d".toList.contains)

/-- Whether a colon stands before a character that means something in flow style. -/
def hasStrayColon (inFlow : Bool) (c : Cursor) : Bool :=
  inFlow && c.isAt ':' && c.has ",?[]\x7b\x7d".toList.contains 1

/-- The characters of a plain scalar up to a gap, behind those in `passed`, which holds the last one
first. -/
def scanPlainRun (inFlow : Bool) (start : Mark) :
    Nat → List Char → Cursor → Except Fault (List Char × Cursor)
  | 0, passed, c => .ok (passed.reverse, c)
  | fuel + 1, passed, c =>
    match c.rest with
    | [] => .ok (passed.reverse, c)
    | x :: _ =>
      if isBlank x || isBreak x then .ok (passed.reverse, c)
      else if hasStrayColon inFlow c then c.fault .plainScalar start .strayColon
      else if endsPlainAt inFlow c then .ok (passed.reverse, c)
      else scanPlainRun inFlow start fuel (x :: passed) c.skip

/-- What is known of a plain scalar while it is read. -/
structure PlainScan where
  text : List Char := []
  gap : Gap := {}
  stop : Mark
  cursor : Cursor

/-- The parts of a plain scalar between its gaps. -/
def scanPlainParts (inFlow : Bool) (indent : Int) (start : Mark) :
    Nat → PlainScan → Except Fault PlainScan
  | 0, s => .ok s
  | fuel + 1, s => do
    let c := s.cursor
    if c.isAtDocumentMark || c.isAt '#' then return s
    let (run, c') ← scanPlainRun inFlow start (c.rest.length + 1) [] c
    let s' : PlainScan :=
      if run.isEmpty then { s with cursor := c' }
      else { text := s.text ++ s.gap.text ++ run, stop := c'.mark, cursor := c' }
    if !c'.has (fun x => isBlank x || isBreak x) then return s'
    let (gap, c'') ← scanGap
      (fun c broken => broken && c.isAt '\t' && (c.mark.column : Int) < indent)
      (fun c =>
        { defect := .tabBeforeIndentation, mark := c.mark, activity := some (.plainScalar, start) })
      (c'.rest.length + 1) s'.gap c'
    let s'' := { s' with gap, cursor := c'' }
    if !inFlow && (c''.mark.column : Int) < indent then return s''
    else scanPlainParts inFlow indent start fuel s''

/-- A plain scalar, with the cursor behind it, and whether a line break follows it. -/
def scanPlain (inFlow : Bool) (indent : Int) (c : Cursor) :
    Except Fault (Token × Cursor × Bool) := do
  let s ← scanPlainParts inFlow (indent + 1) c.mark (c.rest.length + 1)
    { stop := c.mark, cursor := c }
  return (⟨.scalar (String.ofList s.text) .plain, c.mark, s.stop⟩, s.cursor, s.gap.isBroken)

/-! ## Quoted scalars -/

/-- The number of digits of an escape by number. -/
def escapeWidth? (c : Char) : Option Nat :=
  [('x', 2), ('u', 4), ('U', 8)].lookup c

/-- The character of an escape by letter. -/
def unescape? (c : Char) : Option Char :=
  [('0', '\x00'), ('a', '\x07'), ('b', '\x08'), ('t', '\t'), ('\t', '\t'), ('n', '\n'),
    ('v', '\x0b'), ('f', '\x0c'), ('r', '\r'), ('e', '\x1b'), (' ', ' '), ('"', '"'), ('/', '/'),
    ('\\', '\\'), ('N', '\u0085'), ('_', '\u00a0'), ('L', '\u2028'), ('P', '\u2029')].lookup c

/-- The number that hexadecimal digits of a fixed count spell. -/
def hexNumber? (digits : List Char) (count : Nat) : Option Nat :=
  if digits.length < count then none else natural? 16 (digits.take count)

/-- An escape between double quotes, with the cursor on its backslash. -/
def scanEscape (start : Mark) (c : Cursor) : Except Fault (Char × Cursor) :=
  match c.rest[1]? with
  | none => c.fault .quotedEscape start .unknownEscape
  | some x =>
    match unescape? x, escapeWidth? x with
    | some y, _ => .ok (y, c.skipMany 2)
    | none, some width =>
      let c' := c.skipMany 2
      match hexNumber? c'.rest width with
      | none => c'.fault .quotedEscape start .noHexDigit
      | some n =>
        if n.isValidChar then .ok (Char.ofNat n, c'.skipMany width)
        else c'.fault .quotedEscape start .badCharacterCode
    | none, none => c.fault .quotedEscape start .unknownEscape

/-- The characters of a quoted scalar up to a gap or its end, behind those in `passed`, which holds
the last one first; whether they end in an escaped line break. -/
def scanQuotedRun (single : Bool) (start : Mark) :
    Nat → List Char → Cursor → Except Fault (List Char × Bool × Cursor)
  | 0, passed, c => .ok (passed.reverse, false, c)
  | fuel + 1, passed, c =>
    match c.rest with
    | [] => .ok (passed.reverse, false, c)
    | x :: rest =>
      if isBlank x || isBreak x then .ok (passed.reverse, false, c)
      else if single then
        if x = '\'' then
          if rest.head? = some '\'' then
            scanQuotedRun single start fuel ('\'' :: passed) (c.skipMany 2)
          else .ok (passed.reverse, false, c)
        else scanQuotedRun single start fuel (x :: passed) c.skip
      else if x = '"' then .ok (passed.reverse, false, c)
      else if x = '\\' then
        if c.has isBreak 1 then .ok (passed.reverse, true, c.skip.skipLine)
        else do
          let (y, c') ← scanEscape start c
          scanQuotedRun single start fuel (y :: passed) c'
      else scanQuotedRun single start fuel (x :: passed) c.skip

/-- The parts of a quoted scalar between its gaps, up to its closing quote. -/
def scanQuotedParts (single : Bool) (start : Mark) :
    Nat → List Char → Cursor → Except Fault (List Char × Cursor)
  | 0, _, c => c.fault .quotedScalar start .endInQuotes
  | fuel + 1, done, c => do
    if c.isAtDocumentMark then c.fault .quotedScalar start .strayDocumentMark
    else if c.isAtEnd then c.fault .quotedScalar start .endInQuotes
    else
      let (run, escapedBreak, c') ← scanQuotedRun single start (c.rest.length + 1) [] c
      if c'.isAt (if single then '\'' else '"') then return (done ++ run, c')
      else
        let (gap, c'') ← scanGap (fun _ _ => false)
          (fun c => { defect := .endInQuotes, mark := c.mark })
          (c'.rest.length + 1) { isBroken := escapedBreak } c'
        scanQuotedParts single start fuel (done ++ run ++ gap.text) c''

/-- A quoted scalar, with the cursor behind it. -/
def scanQuoted (single : Bool) (c : Cursor) : Except Fault (Token × Cursor) := do
  let (text, c') ← scanQuotedParts single c.mark (c.rest.length + 1) [] c.skip
  return (⟨.scalar (String.ofList text) .quoted, c.mark, c'.skip.mark⟩, c'.skip)

/-! ## Blocks -/

/-- What is done with the line breaks at the end of a block. -/
inductive Chomping where
  | strip
  | clip
  | keep
  deriving DecidableEq, Repr

/-- The mark of a way of chomping. -/
def chompingOf? (c : Char) : Option Chomping :=
  if c = '+' then some .keep else if c = '-' then some .strip else none

/-- The indentation indicator at the cursor, if there is one. -/
def scanIndicator (start : Mark) (c : Cursor) : Except Fault (Option Nat × Cursor) :=
  match c.rest with
  | x :: _ =>
    if x = '0' then c.fault .blockScalar start .zeroIndentation
    else if x.isDigit then .ok (some (x.toNat - '0'.toNat), c.skip)
    else .ok (none, c)
  | [] => .ok (none, c)

/-- The indicators of a block, in either order. -/
def scanBlockHeader (start : Mark) (c : Cursor) :
    Except Fault (Chomping × Option Nat × Cursor) := do
  match c.rest.head?.bind chompingOf? with
  | some chomping =>
    let (indent, c') ← scanIndicator start c.skip
    return (chomping, indent, c')
  | none =>
    let (indent, c') ← scanIndicator start c
    match indent, c'.rest.head?.bind chompingOf? with
    | some _, some chomping => return (chomping, indent, c'.skip)
    | _, _ => return (.clip, indent, c')

/-- Spaces that belong to the indentation: all of them where it is not known yet. -/
def skipIndentation (indent : Option Nat) (c : Cursor) : Cursor :=
  let spaces := (c.run (· = ' ')).length
  match indent with
  | none => c.skipMany spaces
  | some n => c.skipMany (min spaces (n - c.mark.column))

/-- Lines without content: their breaks, the deepest column in them, and their end. -/
def scanEmptyLines (indent : Option Nat) (start : Mark) :
    Nat → List Char → Nat → Mark → Cursor → Except Fault (List Char × Nat × Mark × Cursor)
  | 0, breaks, deepest, stop, c => .ok (breaks, deepest, stop, c)
  | fuel + 1, breaks, deepest, stop, c =>
    let c' := skipIndentation indent c
    let deepest' := max deepest c'.mark.column
    if c'.isAt '\t' && indent.all (c'.mark.column < ·) then
      c'.fault .blockScalar start .tabInIndentation
    else if c'.has isBreak then
      let (text, c'') := c'.readLine
      scanEmptyLines indent start fuel (breaks ++ text) deepest' c''.mark c''
    else .ok (breaks, deepest', stop, c')

/-- What is known of a block while it is read. -/
structure BlockScan where
  text : List Char := []
  /-- The break at the end of the last line with content. -/
  lastBreak : List Char := []
  /-- The breaks of the lines without content behind it. -/
  emptyLines : List Char
  /-- Whether the last line with content starts with a blank, so that it is not folded. -/
  isIndented : Bool := false
  stop : Mark
  cursor : Cursor

/-- The lines of a block. -/
def scanBlockLines (isLiteral : Bool) (indent : Nat) (start : Mark) :
    Nat → BlockScan → Except Fault BlockScan
  | 0, s => .ok s
  | fuel + 1, s =>
    let c := s.cursor
    if c.mark.column ≠ indent || c.isAtEnd then .ok s
    else do
      let isIndented := c.has isBlank
      let folds := !isLiteral && s.lastBreak = ['\n'] && !s.isIndented && !isIndented
      let gap :=
        if folds then (if s.emptyLines.isEmpty then [' '] else s.emptyLines)
        else s.lastBreak ++ s.emptyLines
      let line := c.run fun x => !isBreak x
      let (lastBreak, c') := c.skipToLineEnd.readLine
      let (emptyLines, _, stop, c'') ←
        scanEmptyLines (some indent) start (c'.rest.length + 1) [] 0 c'.mark c'
      scanBlockLines isLiteral indent start fuel
        { text := s.text ++ gap ++ line, lastBreak, emptyLines, isIndented, stop, cursor := c'' }

/-- A block, with the cursor behind it. -/
def scanBlock (isLiteral : Bool) (parentIndent : Int) (c : Cursor) :
    Except Fault (Token × Cursor) := do
  let start := c.mark
  let (chomping, indicator, c) ← scanBlockHeader start c.skip
  let c := (c.skipWhile isBlank).skipComment
  if !c.isAtLineEnd then c.fault .blockScalar start .noLineEnd
  else
    let c := c.skipLine
    let known := indicator.map fun n => parentIndent.toNat + n
    let (emptyLines, deepest, stop, c) ←
      scanEmptyLines known start (c.rest.length + 1) [] 0 c.mark c
    let indent := known.getD (max deepest (max (parentIndent + 1).toNat 1))
    let s ← scanBlockLines isLiteral indent start (c.rest.length + 1)
      { emptyLines, stop, cursor := c }
    let tail := match chomping with
      | .strip => []
      | .clip => s.lastBreak
      | .keep => s.lastBreak ++ s.emptyLines
    let style := if isLiteral then .literal else .folded
    return (⟨.scalar (String.ofList (s.text ++ tail)) style, start, s.stop⟩, s.cursor)

end ServiceSpec.Yaml
