/-!
# Tags of YAML values

A tag names the type of a value.  It is a sequence of bytes: an escape in it stands for a byte, and
nothing makes sure that the bytes encode a text.

## Main definitions

* `Yaml.Tag` : the bytes of a tag.
* `Tag.core` : the tags of the types that every document knows.
* `Tag.name?` : the name in a tag that a document defines itself.
-/

namespace ServiceSpec.Yaml

/-- The bytes of a tag. -/
structure Tag where
  bytes : List UInt8
  deriving DecidableEq, Repr

namespace Tag

/-- The tag spelled by a text. -/
def ofString (s : String) : Tag :=
  ⟨s.toUTF8.toList⟩

/-- The tag of a core type. -/
def core (type : String) : Tag :=
  ofString ("tag:yaml.org,2002:" ++ type)

/-- The tag that goes on with another. -/
def append (t u : Tag) : Tag :=
  ⟨t.bytes ++ u.bytes⟩

/-- The part of a tag before its first zero byte. -/
def beforeZero (t : Tag) : Tag :=
  ⟨t.bytes.takeWhile (· ≠ 0)⟩

/-- Whether a document defines the tag itself: it starts with an exclamation mark. -/
def isLocal (t : Tag) : Bool :=
  t.bytes.head? = some '!'.toUInt8

/-- The name in a tag that a document defines itself, which is the mark where nothing follows it.
There is none where the bytes encode no text. -/
def name? (t : Tag) : Option String :=
  if t.isLocal then
    let name := if t.bytes.length = 1 then t.bytes else t.bytes.drop 1
    String.fromUTF8? name.toByteArray
  else none

end Tag

end ServiceSpec.Yaml
