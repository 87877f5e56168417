/-!
# Faults of YAML text

What can be wrong with the grammar of a text: a defect at a place, and what was being read there.

## Main definitions

* `Yaml.Mark` : a place in a text.
* `Yaml.Defect`, `Yaml.Activity` : what is wrong, and what was being read.
* `Yaml.Fault.message` : the wording of a fault.
-/

namespace ServiceSpec.Yaml

/-- A place in a text. -/
structure Mark where
  /-- How many bytes stand before it. -/
  index : Nat := 0
  /-- How many lines end before it. -/
  line : Nat := 0
  /-- How many characters stand before it in its line. -/
  column : Nat := 0
  deriving DecidableEq, Repr, Inhabited

namespace Mark

/-- Whether the place is worth naming: it is not the start of the text. -/
def isNamed (m : Mark) : Bool :=
  m.line ≠ 0 || m.column ≠ 0

/-- The wording of a place. -/
def describe (m : Mark) : String :=
  "line " ++ toString (m.line + 1) ++ " column " ++ toString (m.column + 1)

/-- The place behind a character that is no line break. -/
def past (m : Mark) (c : Char) : Mark :=
  ⟨m.index + c.utf8Size, m.line, m.column + 1⟩

/-- The place behind characters that are no line breaks. -/
def pastAll (m : Mark) (cs : List Char) : Mark :=
  cs.foldl past m

/-- The place behind a line break of some bytes. -/
def nextLine (m : Mark) (width : Nat) : Mark :=
  ⟨m.index + width, m.line + 1, 0⟩

end Mark

/-- What was being read. -/
inductive Activity where
  | simpleKey
  | nextToken
  | directive
  | versionDirective
  | tagDirective
  | tagDirectiveStart
  | tagDirectiveHandle
  | tagDirectivePrefix
  | anchor
  | aliasing
  | tag
  | tagName
  | blockScalar
  | quotedScalar
  | quotedEscape
  | plainScalar
  | node
  | blockNode
  | flowNode
  | blockList
  | blockMap
  | flowList
  | flowMap
  deriving DecidableEq, Repr

/-- The wording of what was being read. -/
def Activity.describe : Activity → String
  | simpleKey => "while scanning a simple key"
  | nextToken => "while scanning for the next token"
  | directive => "while scanning a directive"
  | versionDirective => "while scanning a %YAML directive"
  | tagDirective => "while scanning a %TAG directive"
  | tagDirectiveStart => "while scanning a tag directive"
  | tagDirectiveHandle => "while parsing a tag directive"
  | tagDirectivePrefix => "while parsing a %TAG directive"
  | anchor => "while scanning an anchor"
  | aliasing => "while scanning an alias"
  | tag => "while scanning a tag"
  | tagName => "while parsing a tag"
  | blockScalar => "while scanning a block scalar"
  | quotedScalar => "while scanning a quoted scalar"
  | quotedEscape => "while parsing a quoted scalar"
  | plainScalar => "while scanning a plain scalar"
  | node => "while parsing a node"
  | blockNode => "while parsing a block node"
  | flowNode => "while parsing a flow node"
  | blockList => "while parsing a block collection"
  | blockMap => "while parsing a block mapping"
  | flowList => "while parsing a flow sequence"
  | flowMap => "while parsing a flow mapping"

/-- What is wrong. -/
inductive Defect where
  | controlCharacter
  | noColon
  | strayCharacter
  | listNotAllowed
  | keyNotAllowed
  | valueNotAllowed
  | noDirectiveName
  | badDirectiveName
  | unknownDirective
  | noLineEnd
  | noVersion
  | longVersion
  | noVersionPoint
  | noBlank
  | noBlankOrLineEnd
  | noAnchorName
  | noExclamation
  | noTagName
  | noTagEnd
  | noEscapedByte
  | badLeadingByte
  | badTrailingByte
  | zeroIndentation
  | tabInIndentation
  | tabBeforeIndentation
  | strayDocumentMark
  | endInQuotes
  | unknownEscape
  | noHexDigit
  | badCharacterCode
  | strayColon
  | noDocumentStart
  | secondVersion
  | badVersion
  | secondTagHandle
  | unknownTagHandle
  | noContent
  | noDash
  | noKey
  | noFlowListEnd
  | noFlowMapEnd
  deriving DecidableEq, Repr

/-- The wording of what is wrong. -/
def Defect.describe : Defect → String
  | controlCharacter => "control characters are not allowed"
  | noColon => "could not find expected ':'"
  | strayCharacter => "found character that cannot start any token"
  | listNotAllowed => "block sequence entries are not allowed in this context"
  | keyNotAllowed => "mapping keys are not allowed in this context"
  | valueNotAllowed => "mapping values are not allowed in this context"
  | noDirectiveName => "could not find expected directive name"
  | badDirectiveName => "found unexpected non-alphabetical character"
  | unknownDirective => "found unknown directive name"
  | noLineEnd => "did not find expected comment or line break"
  | noVersion => "did not find expected version number"
  | longVersion => "found extremely long version number"
  | noVersionPoint => "did not find expected digit or '.' character"
  | noBlank => "did not find expected whitespace"
  | noBlankOrLineEnd => "did not find expected whitespace or line break"
  | noAnchorName => "did not find expected alphabetic or numeric character"
  | noExclamation => "did not find expected '!'"
  | noTagName => "did not find expected tag URI"
  | noTagEnd => "did not find the expected '>'"
  | noEscapedByte => "did not find URI escaped octet"
  | badLeadingByte => "found an incorrect leading UTF-8 octet"
  | badTrailingByte => "found an incorrect trailing UTF-8 octet"
  | zeroIndentation => "found an indentation indicator equal to 0"
  | tabInIndentation => "found a tab character where an indentation space is expected"
  | tabBeforeIndentation => "found a tab character that violates indentation"
  | strayDocumentMark => "found unexpected document indicator"
  | endInQuotes => "found unexpected end of stream"
  | unknownEscape => "found unknown escape character"
  | noHexDigit => "did not find expected hexadecimal number"
  | badCharacterCode => "found invalid Unicode character escape code"
  | strayColon => "found unexpected ':'"
  | noDocumentStart => "did not find expected <document start>"
  | secondVersion => "found duplicate %YAML directive"
  | badVersion => "found incompatible YAML document"
  | secondTagHandle => "found duplicate %TAG directive"
  | unknownTagHandle => "found undefined tag handle"
  | noContent => "did not find expected node content"
  | noDash => "did not find expected '-' indicator"
  | noKey => "did not find expected key"
  | noFlowListEnd => "did not find expected ',' or ']'"
  | noFlowMapEnd => "did not find expected ',' or '\x7d'"

/-- A fault of grammar. -/
structure Fault where
  defect : Defect
  mark : Mark
  /-- The number of bytes before the defect, where no mark is known yet. -/
  offset : Nat := 0
  /-- What was being read, and where it starts. -/
  activity : Option (Activity × Mark) := none
  deriving DecidableEq, Repr

/-- The wording of a fault.  The start of what was being read is named if it is another place. -/
def Fault.message (f : Fault) : String :=
  let place :=
    if f.mark.isNamed then " at " ++ f.mark.describe
    else if f.offset ≠ 0 then " at position " ++ toString f.offset
    else ""
  let context := match f.activity with
    | none => ""
    | some (activity, start) =>
      ", " ++ activity.describe ++
        if start.isNamed && (start.line ≠ f.mark.line || start.column ≠ f.mark.column) then
          " at " ++ start.describe
        else ""
  f.defect.describe ++ place ++ context

end ServiceSpec.Yaml
