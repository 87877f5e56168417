import ServiceSpec.Yaml.Event

/-!
# The contents of a YAML document

The parts of the first document of a text in order, with aliases led to the values they stand for.

## Main definitions

* `Yaml.Part` : a part of a document.
* `Yaml.Contents` : the parts of a document, and what is wrong behind the last of them.
* `Yaml.contents` : the contents of a text.
-/

namespace ServiceSpec.Yaml

/-- A part of a document. -/
inductive Part where
  | aliasOf (anchor : Nat)
  | scalar (tag : Option Tag) (text : String) (style : ScalarStyle)
  | listStart (tag : Option Tag)
  | listEnd
  | mapStart (tag : Option Tag)
  | mapEnd
  /-- What an empty text holds. -/
  | void
  deriving DecidableEq, Repr

/-- Why the parts of a document end early. -/
inductive Break where
  | fault (fault : Fault)
  | unknownAnchor (mark : Mark)
  deriving DecidableEq, Repr

/-- The parts of a document. -/
structure Contents where
  parts : Array (Part × Mark) := #[]
  /-- Why the parts end early, if they do. -/
  broken : Option Break := none
  /-- The numbers of anchors by name. -/
  anchors : List (String × Nat) := []
  /-- The values with an anchor, by the number of the anchor.  A number may be given twice; the
  last value counts. -/
  targets : List (Nat × Nat) := []
  /-- Whether another document follows. -/
  hasMore : Bool := false

namespace Contents

/-- Adds a part. -/
def push (c : Contents) (p : Part) (m : Mark) : Contents :=
  { c with parts := c.parts.push (p, m) }

/-- Notes the anchor of the next part.  Its number is the count of names before it. -/
def anchor (c : Contents) : Option String → Contents
  | none => c
  | some name =>
    let number := c.anchors.length
    { c with
      anchors := (name, number) :: c.anchors.filter (·.1 ≠ name)
      targets := (number, c.parts.size) :: c.targets }

/-- Whether another document, or a fault, follows the end of a document. -/
def followed (g : Grouping) : Bool :=
  match Group.next.run g with
  | .ok ((.streamEnd, _), _) => false
  | _ => true

/-- Collects the parts of a document. -/
def collect : Nat → Grouping → Contents → Contents
  | 0, _, c => c
  | fuel + 1, g, c =>
    match Group.next.run g with
    | .error f => { c with broken := some (.fault f) }
    | .ok ((event, m), g') =>
      match event with
      | .documentStart => collect fuel g' c
      | .documentEnd => { c with hasMore := followed g' }
      | .streamEnd => if c.parts.isEmpty then c.push .void m else c
      | .aliasOf name =>
        match c.anchors.lookup name with
        | some number => collect fuel g' (c.push (.aliasOf number) m)
        | none => { c with broken := some (.unknownAnchor m) }
      | .scalar a tag text style => collect fuel g' ((c.anchor a).push (.scalar tag text style) m)
      | .listStart a tag => collect fuel g' ((c.anchor a).push (.listStart tag) m)
      | .listEnd => collect fuel g' (c.push .listEnd m)
      | .mapStart a tag => collect fuel g' ((c.anchor a).push (.mapStart tag) m)
      | .mapEnd => collect fuel g' (c.push .mapEnd m)

end Contents

/-- The contents of the first document of a text. -/
def contents (text : String) : Contents :=
  let (tokens, fault) := tokens text
  Contents.collect (4 * tokens.length + 8) { tokens, fault } {}

end ServiceSpec.Yaml
