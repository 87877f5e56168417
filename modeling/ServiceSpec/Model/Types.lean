/-!
# Vocabulary of fields and endpoints

The types a field may have, its modifiers, the operations of a resource and the methods of an
endpoint, each with the name it is written by.

## Main definitions

* `Primitive` : the built-in scalar types.
* `TypeRef` : the type of a field, a primitive or a reference to an object or enum.
* `Modifier`, `Operation`, `Method` : the other closed vocabularies.
-/

namespace ServiceSpec

/-- The built-in scalar types. -/
inductive Primitive where
  | uuid
  | string
  | int
  | bool
  | date
  | timestamp
  deriving DecidableEq, Repr

namespace Primitive

/-- Every primitive, in the order of declaration. -/
def all : List Primitive :=
  [uuid, string, int, bool, date, timestamp]

/-- The name of a primitive in a specification. -/
def name : Primitive → String
  | uuid => "UUID"
  | string => "String"
  | int => "Int"
  | bool => "Bool"
  | date => "Date"
  | timestamp => "Timestamp"

/-- The primitive of that name.  Case matters: `"string"` names none. -/
def ofName? (s : String) : Option Primitive :=
  all.find? (·.name = s)

/-- Whether the values have a total order, so that ranges of them make sense. -/
def isOrdered : Primitive → Bool
  | int | date | timestamp => true
  | _ => false

/-- Whether the values are free text. -/
def isText : Primitive → Bool
  | string => true
  | _ => false

end Primitive

/-- The type of a field. -/
inductive TypeRef where
  /-- A built-in scalar type. -/
  | primitive (p : Primitive)
  /-- A reference to an object by its name. -/
  | object (name : String)
  /-- A reference to an enum by its name. -/
  | enum (name : String)
  /-- A name whose meaning is not settled yet. -/
  | named (name : String)
  deriving DecidableEq, Repr

namespace TypeRef

/-- The type a name stands for before resolution: a primitive if it names one. -/
def ofName (s : String) : TypeRef :=
  match Primitive.ofName? s with
  | some p => primitive p
  | none => named s

/-- The name a type is written by. -/
def name : TypeRef → String
  | primitive p => p.name
  | object n | enum n | named n => n

/-- The primitive, if the type is one. -/
def primitive? : TypeRef → Option Primitive
  | primitive p => some p
  | _ => none

/-- The name of the object referred to, if the type is an object reference. -/
def objectName? : TypeRef → Option String
  | object n => some n
  | _ => none

/-- Whether the values have a total order. -/
def isOrdered (t : TypeRef) : Bool :=
  t.primitive?.any Primitive.isOrdered

/-- Whether the values are free text. -/
def isText (t : TypeRef) : Bool :=
  t.primitive?.any Primitive.isText

/-- Whether the meaning of the name is settled. -/
def isResolved : TypeRef → Bool
  | named _ => false
  | _ => true

end TypeRef

/-- The modifiers of a field. -/
inductive Modifier where
  /-- The field holds a list of values of its type. -/
  | array
  /-- The field may be left out or null. -/
  | nullable
  deriving DecidableEq, Repr

namespace Modifier

/-- Every modifier, in the order of declaration. -/
def all : List Modifier :=
  [array, nullable]

/-- The name of a modifier in a specification. -/
def name : Modifier → String
  | array => "Array"
  | nullable => "Nullable"

/-- The modifier of that name. -/
def ofName? (s : String) : Option Modifier :=
  all.find? (·.name = s)

end Modifier

/-- The operations a resource may allow. -/
inductive Operation where
  | create
  | read
  | update
  | delete
  deriving DecidableEq, Repr

namespace Operation

/-- Every operation, in the order of declaration. -/
def all : List Operation :=
  [create, read, update, delete]

/-- The name of an operation in a specification. -/
def name : Operation → String
  | create => "Create"
  | read => "Read"
  | update => "Update"
  | delete => "Delete"

/-- The operation of that name. -/
def ofName? (s : String) : Option Operation :=
  all.find? (·.name = s)

end Operation

/-- The methods an endpoint may answer to. -/
inductive Method where
  | get
  | post
  | put
  | patch
  | delete
  deriving DecidableEq, Repr

namespace Method

/-- Every method, in the order of declaration. -/
def all : List Method :=
  [get, post, put, patch, delete]

/-- The name of a method in a specification. -/
def name : Method → String
  | get => "GET"
  | post => "POST"
  | put => "PUT"
  | patch => "PATCH"
  | delete => "DELETE"

/-- The key of a method in a path item. -/
def key : Method → String
  | get => "get"
  | post => "post"
  | put => "put"
  | patch => "patch"
  | delete => "delete"

/-- The method of that name. -/
def ofName? (s : String) : Option Method :=
  all.find? (·.name = s)

end Method

end ServiceSpec
