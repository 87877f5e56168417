import ServiceSpec.Yaml.Token

/-!
# Anchors, tags and directives in YAML text

## Main definitions

* `Yaml.scanAnchor` : an anchor or an alias.
* `Yaml.scanTag` : the tag of a value.
* `Yaml.scanDirective` : a directive before a document.
-/

namespace ServiceSpec.Yaml

/-! ## Anchors -/

/-- An anchor or an alias. -/
def scanAnchor (isAlias : Bool) (c : Cursor) : Except Fault (Token × Cursor) :=
  let start := c.mark
  let name := c.skip.run isNameChar
  let c' := c.skip.skipMany name.length
  if name.isEmpty || !(c'.hasGap || c'.has "?:,]\x7d%@`".toList.contains) then
    c'.fault (if isAlias then .aliasing else .anchor) start .noAnchorName
  else
    let text := String.ofList name
    .ok (⟨if isAlias then .aliasOf text else .anchor text, start, c'.mark⟩, c')

/-! ## Tags -/

/-- Characters of tag names. -/
def isTagChar (isVerbatim : Bool) (c : Char) : Bool :=
  isNameChar c || ";/?:@&=+$.%!~*'()".toList.contains c || (isVerbatim && ",[]".toList.contains c)

/-- The number of bytes of a character by its first byte. -/
def encodedWidth? (byte : Nat) : Option Nat :=
  if byte < 0x80 then some 1
  else if 0xc0 ≤ byte ∧ byte < 0xe0 then some 2
  else if 0xe0 ≤ byte ∧ byte < 0xf0 then some 3
  else if 0xf0 ≤ byte ∧ byte < 0xf8 then some 4
  else none

/-- The byte that a percent sign and two digits stand for. -/
def escapedByte (activity : Activity) (start : Mark) (c : Cursor) : Except Fault (Nat × Cursor) :=
  match c.rest with
  | '%' :: digits =>
    match hexNumber digits with
    | some byte => .ok (byte, c.skipMany 3)
    | none => c.fault activity start .noEscapedByte
  | _ => c.fault activity start .noEscapedByte
where
  /-- The number of the first two digits. -/
  hexNumber (digits : List Char) : Option Nat :=
    if digits.length < 2 then none else natural? 16 (digits.take 2)

/-- The further bytes of a character. -/
def escapedTail (activity : Activity) (start : Mark) :
    Nat → Cursor → Except Fault (List UInt8 × Cursor)
  | 0, c => .ok ([], c)
  | count + 1, c => do
    let (byte, c') ← escapedByte activity start c
    if byte / 64 ≠ 2 then c.fault activity start .badTrailingByte
    else
      let (bytes, c'') ← escapedTail activity start count c'
      return (byte.toUInt8 :: bytes, c'')

/-- The escaped bytes of a character: as many as the first one calls for.  Whether they are the
encoding of a character is not asked. -/
def escapedChar (activity : Activity) (start : Mark) (c : Cursor) :
    Except Fault (List UInt8 × Cursor) := do
  let (byte, c') ← escapedByte activity start c
  match encodedWidth? byte with
  | none => c.fault activity start .badLeadingByte
  | some width =>
    let (bytes, c'') ← escapedTail activity start (width - 1) c'
    return (byte.toUInt8 :: bytes, c'')

/-- The bytes of a tag name. -/
def scanTagChars (isVerbatim : Bool) (activity : Activity) (start : Mark) :
    Nat → List UInt8 → Cursor → Except Fault (List UInt8 × Cursor)
  | 0, done, c => .ok (done, c)
  | fuel + 1, done, c =>
    match c.rest with
    | [] => .ok (done, c)
    | x :: _ =>
      if !isTagChar isVerbatim x then .ok (done, c)
      else if x = '%' then do
        let (bytes, c') ← escapedChar activity start c
        scanTagChars isVerbatim activity start fuel (done ++ bytes) c'
      else scanTagChars isVerbatim activity start fuel (done ++ [x.toUInt8]) c.skip

/-- A tag name behind what was read of it before; it is not empty.  A zero byte ends the name, but
not what is read for it. -/
def scanTagName (isVerbatim : Bool) (activity : Activity) (start : Mark) (before : List Char)
    (c : Cursor) : Except Fault (Tag × Cursor) := do
  let (name, c') ← scanTagChars isVerbatim activity start (c.rest.length + 1) [] c
  if before.isEmpty && name.isEmpty then c'.fault activity start .noTagName
  else return (Tag.beforeZero ⟨(before.drop 1).map Char.toUInt8 ++ name⟩, c')

/-- A tag handle: name characters between exclamation marks, where the second may be missing. -/
def scanTagHandle (isDirective : Bool) (start : Mark) (c : Cursor) :
    Except Fault (List Char × Cursor) :=
  if !c.isAt '!' then
    c.fault (if isDirective then .tagDirectiveStart else .tag) start .noExclamation
  else
    let name := c.skip.run isNameChar
    let c' := c.skip.skipMany name.length
    if c'.isAt '!' then .ok ('!' :: name ++ ['!'], c'.skip)
    else if isDirective && !name.isEmpty then c'.fault .tagDirectiveHandle start .noExclamation
    else .ok ('!' :: name, c')

/-- The handle and the name of a tag. -/
def scanTagParts (start : Mark) (c : Cursor) : Except Fault (String × Tag × Cursor) := do
  if c.has (· = '<') 1 then
    let (name, c') ← scanTagName true .tagName start [] (c.skipMany 2)
    if c'.isAt '>' then return ("", name, c'.skip)
    else c'.fault .tag start .noTagEnd
  else
    let (handle, c') ← scanTagHandle false start c
    if 1 < handle.length && handle.getLast? = some '!' then
      let (name, c'') ← scanTagName false .tagName start [] c'
      return (String.ofList handle, name, c'')
    else
      let (name, c'') ← scanTagName false .tagName start handle c'
      return if name.bytes.isEmpty then ("", Tag.ofString "!", c'') else ("!", name, c'')

/-- The tag of a value. -/
def scanTag (inFlow : Bool) (c : Cursor) : Except Fault (Token × Cursor) := do
  let start := c.mark
  let (handle, name, c') ← scanTagParts start c
  if !c'.hasGap && !(inFlow && c'.isAt ',') then c'.fault .tag start .noBlankOrLineEnd
  else return (⟨.tag handle name, start, c'.mark⟩, c')

/-! ## Directives -/

/-- A part of a version. -/
def scanVersionNumber (start : Mark) (c : Cursor) : Except Fault (Nat × Cursor) :=
  let digits := c.run Char.isDigit
  if 9 < digits.length then (c.skipMany 9).fault .versionDirective start .longVersion
  else
    match natural? 10 digits with
    | some n => .ok (n, c.skipMany digits.length)
    | none => c.fault .versionDirective start .noVersion

/-- The version that a directive gives. -/
def scanVersion (start : Mark) (c : Cursor) : Except Fault (TokenKind × Cursor) := do
  let (major, c') ← scanVersionNumber start (c.skipWhile isBlank)
  if !c'.isAt '.' then c'.fault .versionDirective start .noVersionPoint
  else
    let (minor, c'') ← scanVersionNumber start c'.skip
    return (.version major minor, c'')

/-- The handle and what it stands for that a directive gives. -/
def scanTagDefinition (start : Mark) (c : Cursor) : Except Fault (TokenKind × Cursor) := do
  let (handle, c') ← scanTagHandle true start (c.skipWhile isBlank)
  if !c'.has isBlank then c'.fault .tagDirective start .noBlank
  else
    let (name, c'') ← scanTagName true .tagDirectivePrefix start [] (c'.skipWhile isBlank)
    if !c''.hasGap then c''.fault .tagDirective start .noBlankOrLineEnd
    else return (.tagHandle (String.ofList handle) name, c'')

/-- The name of a directive. -/
def scanDirectiveName (start : Mark) (c : Cursor) : Except Fault (String × Cursor) :=
  let name := c.run isNameChar
  let c' := c.skipMany name.length
  if name.isEmpty then c'.fault .directive start .noDirectiveName
  else if !c'.hasGap then c'.fault .directive start .badDirectiveName
  else .ok (String.ofList name, c')

/-- A directive with its line. -/
def scanDirective (c : Cursor) : Except Fault (Token × Cursor) := do
  let start := c.mark
  let (name, c') ← scanDirectiveName start c.skip
  let (kind, c'') ←
    if name = "YAML" then scanVersion start c'
    else if name = "TAG" then scanTagDefinition start c'
    else c'.fault .directive start .unknownDirective
  let rest := (c''.skipWhile isBlank).skipComment
  if !rest.isAtLineEnd then rest.fault .directive start .noLineEnd
  else return (⟨kind, start, c''.mark⟩, rest.skipLine)

end ServiceSpec.Yaml
