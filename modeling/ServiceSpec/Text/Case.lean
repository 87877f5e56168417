import ServiceSpec.Text.CaseTable

/-!
# Letter case

Upper and lower case of characters and words, as Unicode defines them without regard to a language.
A character may map to several.  One mapping depends on its surroundings: a capital sigma at the end
of a word becomes the final small sigma.

## Main definitions

* `isUppercase`, `isLowercase` : the properties of those names.
* `upper`, `lower` : full case mappings of one character.
* `lowerWord` : the lower case of a text, with the rule for sigma.
-/

namespace ServiceSpec.Text

/-- Whether some run of the table holds the character. -/
def inRuns (table : Array CodeRun) (c : Char) : Bool :=
  table.any (·.holds c.toNat)

/-- The Unicode property `Uppercase`. -/
def isUppercase (c : Char) : Bool :=
  if c.toNat < 0x80 then c.isUpper else inRuns CaseTable.uppercase c

/-- The Unicode property `Lowercase`. -/
def isLowercase (c : Char) : Bool :=
  if c.toNat < 0x80 then c.isLower else inRuns CaseTable.lowercase c

/-- The Unicode property `Cased`. -/
def isCased (c : Char) : Bool :=
  if c.toNat < 0x80 then c.isAlpha else inRuns CaseTable.cased c

/-- The Unicode property `Case_Ignorable`. -/
def isCaseIgnorable (c : Char) : Bool :=
  inRuns CaseTable.caseIgnorable c

/-- The image of a character under the runs of a table, itself where no run holds it. -/
def shiftCase (table : Array CaseShift) (c : Char) : Char :=
  match table.find? (·.source.holds c.toNat) with
  | some s => Char.ofNat (s.target + (c.toNat - s.source.first))
  | none => c

/-- The full upper case mapping of a character. -/
def upper (c : Char) : List Char :=
  if c.toNat < 0x80 then [c.toUpper]
  else match CaseTable.upperSpecial.find? (·.1 == c.toNat) with
    | some (_, codes) => codes.map Char.ofNat
    | none => [shiftCase CaseTable.upperShifts c]

/-- The full lower case mapping of a character.  Only the dotted capital I maps to two. -/
def lower (c : Char) : List Char :=
  if c.toNat < 0x80 then [c.toLower]
  else if c = '\u0130' then ['i', '\u0307']
  else [shiftCase CaseTable.lowerShifts c]

/-- Whether the first character that case does not ignore is a cased one. -/
def startsCased (cs : List Char) : Bool :=
  match cs.dropWhile isCaseIgnorable with
  | c :: _ => isCased c
  | [] => false

/-- The lower case of a text that follows the characters `before`, nearest first. -/
def lowerAfter (before : List Char) : List Char → List Char
  | [] => []
  | c :: rest =>
    let here :=
      if c = '\u03a3' then
        [if startsCased before && !startsCased rest then '\u03c2' else '\u03c3']
      else lower c
    here ++ lowerAfter (c :: before) rest

/-- The lower case of a text.  A capital sigma that ends a word becomes the final small sigma. -/
def lowerWord (cs : List Char) : List Char :=
  lowerAfter [] cs

end ServiceSpec.Text
