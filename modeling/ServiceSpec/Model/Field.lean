import ServiceSpec.Model.Types
import ServiceSpec.Naming

/-!
# Fields

A field is the building block of objects, parameters and bodies.  A field of a resource also says
which operations it takes part in.

## Main definitions

* `Field` : a named, typed field.
* `Field.isRequired` : it is neither nullable nor has a default.
* `ResourceField` : a field with its operations.
-/

namespace ServiceSpec

/-- A named, typed field.  An empty description, default or sample value
means there is none. -/
structure Field where
  name : String
  description : String := ""
  type : TypeRef
  default : String := ""
  sample : String := ""
  modifiers : List Modifier := []
  deriving DecidableEq, Repr

namespace Field

/-- Whether the field carries the modifier. -/
def has (f : Field) (m : Modifier) : Bool :=
  f.modifiers.contains m

/-- Adds a modifier unless the field carries it already. -/
def withModifier (f : Field) (m : Modifier) : Field :=
  if f.has m then f else { f with modifiers := f.modifiers ++ [m] }

/-- Whether the field may be left out or null. -/
def isNullable (f : Field) : Bool :=
  f.has .nullable

/-- Whether the field holds a list. -/
def isArray (f : Field) : Bool :=
  f.has .array

/-- Whether the field has a default. -/
def hasDefault (f : Field) : Bool :=
  f.default ≠ ""

/-- Whether a value must be given: the field is neither nullable nor has a default. -/
def isRequired (f : Field) : Bool :=
  !f.isNullable && !f.hasDefault

/-- Whether a value can be said to contain something: it is a list or a text. -/
def isContainable (f : Field) : Bool :=
  f.isArray || f.type.isText

/-- The key of the field in payloads and paths. -/
def tag (f : Field) : String :=
  Naming.camelCase f.name

/-- The tags of the required fields, in order. -/
def requiredTags (fields : List Field) : List String :=
  (fields.filter isRequired).map tag

end Field

/-- A field of a resource, with the operations it takes part in. -/
structure ResourceField where
  field : Field
  operations : List Operation := []
  deriving DecidableEq, Repr

namespace ResourceField

/-- The name of the field. -/
def name (f : ResourceField) : String :=
  f.field.name

/-- Whether the field takes part in the operation. -/
def allows (f : ResourceField) (op : Operation) : Bool :=
  f.operations.contains op

end ResourceField

end ServiceSpec
