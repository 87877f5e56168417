import ServiceSpec.Model.Service
import ServiceSpec.Standard.Names

/-!
# Resolution of type names

A document gives the type of a field by a name.  Resolution decides, against an index of the known
objects and enums, which of them the name stands for.

## Main definitions

* `Service.locatedFields` : every field of a service with its place.
* `Service.mapLocatedFields` : the same fields, changed in place.
* `TypeIndex.declared`, `TypeIndex.expected` : the names a service declares, and those it will have
  once it is expanded.
* `TypeIndex.resolve` : what a type refers to, if it is known.
* `Service.resolveWith` : resolution of every field, with the references that stay open.
-/

namespace ServiceSpec

/-- The place of a field in a service. -/
inductive Location where
  | objectField (object field : String)
  | resourceField (resource field : String)
  | endpointField (resource endpoint field : String)
  deriving DecidableEq, Repr

/-- The dotted path of a place. -/
def Location.path : Location → String
  | objectField o f => "objects." ++ o ++ ".fields." ++ f
  | resourceField r f => "resources." ++ r ++ ".fields." ++ f
  | endpointField r e f => "resources." ++ r ++ ".endpoints." ++ e ++ "." ++ f

/-- A type name that stands for nothing known. -/
structure UnresolvedType where
  location : Location
  typeName : String
  deriving DecidableEq, Repr

/-- The wording of an unresolved type. -/
def UnresolvedType.message (u : UnresolvedType) : String :=
  "unknown type '" ++ u.typeName ++ "' at " ++ u.location.path

/-- The fields of an object with their places. -/
def Object.locatedFields (o : Object) : List (Location × Field) :=
  o.fields.map fun f => (.objectField o.name f.name, f)

/-- The fields of a resource and of its endpoints with their places. -/
def Resource.locatedFields (r : Resource) : List (Location × Field) :=
  r.fields.map (fun f => (.resourceField r.name f.name, f.field)) ++
    r.endpoints.flatMap fun e =>
      e.fields.map fun f => (.endpointField r.name e.name f.name, f)

/-- Every field of a service with its place: those of objects, then those of resources. -/
def Service.locatedFields (s : Service) : List (Location × Field) :=
  s.objects.flatMap Object.locatedFields ++ s.resources.flatMap Resource.locatedFields

/-- Changes the fields of an object, each knowing its place. -/
def Object.mapLocatedFields (g : Location → Field → Field) (o : Object) : Object :=
  { o with fields := o.fields.map fun f => g (.objectField o.name f.name) f }

/-- Changes the fields of a resource and of its endpoints, each knowing its place. -/
def Resource.mapLocatedFields (g : Location → Field → Field) (r : Resource) : Resource :=
  { r with
    fields := r.fields.map fun f =>
      { f with field := g (.resourceField r.name f.name) f.field }
    endpoints := r.endpoints.map fun e =>
      e.mapFields fun f => g (.endpointField r.name e.name f.name) f }

/-- Changes every field of a service, each knowing its place. -/
def Service.mapLocatedFields (g : Location → Field → Field) (s : Service) : Service :=
  { s with
    objects := s.objects.map (Object.mapLocatedFields g)
    resources := s.resources.map (Resource.mapLocatedFields g) }

/-- Changes the type of every field of a service. -/
def Service.mapTypes (g : TypeRef → TypeRef) : Service → Service :=
  Service.mapLocatedFields fun _ f => { f with type := g f.type }

/-- The known names of objects and enums. -/
structure TypeIndex where
  objects : List String
  enums : List String

namespace TypeIndex

/-- The names a service declares. -/
def declared (s : Service) : TypeIndex where
  objects := s.objectNames
  enums := s.enumNames

/-- The names of the objects a service will have apart from filters: declared ones, standard ones
and the bodies of readable resources. -/
def expectedOwners (s : Service) : List String :=
  s.objectNames ++ Standard.objects ++ (s.resources.filter (·.allows .read)).map (·.name)

/-- The names a service will have once it is expanded, so that a document may refer to them before.
Objects that report request errors are not among them. -/
def expected (s : Service) : TypeIndex where
  objects := expectedOwners s ++ (expectedOwners s).flatMap Standard.filterNames
  enums := s.enumNames ++ Standard.enums

/-- Whether the name is that of a known object. -/
def hasObject (i : TypeIndex) (name : String) : Bool :=
  i.objects.contains name

/-- Whether the name is that of a known enum. -/
def hasEnum (i : TypeIndex) (name : String) : Bool :=
  i.enums.contains name

/-- What a type refers to, if that is known.  An open name stands for an enum before an object. -/
def resolve (i : TypeIndex) : TypeRef → Option TypeRef
  | .primitive p => some (.primitive p)
  | .object n => if i.hasObject n then some (.object n) else none
  | .enum n => if i.hasEnum n then some (.enum n) else none
  | .named n =>
    if i.hasEnum n then some (.enum n)
    else if i.hasObject n then some (.object n)
    else none

/-- The type resolved where possible, and left as it is otherwise. -/
def settle (i : TypeIndex) (t : TypeRef) : TypeRef :=
  (i.resolve t).getD t

end TypeIndex

namespace Service

/-- The fields whose type the test rejects, in order. -/
def rejectedTypes (s : Service) (accepts : TypeRef → Bool) : List UnresolvedType :=
  (s.locatedFields.filter fun p => !accepts p.2.type).map fun p =>
    { location := p.1, typeName := p.2.type.name }

/-- Resolves every field, and lists those whose type stays unknown. -/
def resolveWith (s : Service) (i : TypeIndex) : Service × List UnresolvedType :=
  (s.mapTypes i.settle, s.rejectedTypes fun t => (i.resolve t).isSome)

/-- Resolves every field against the names the service will have. -/
def resolve (s : Service) : Service × List UnresolvedType :=
  s.resolveWith (TypeIndex.expected s)

/-- The fields whose type is open or unknown to the index, in order. -/
def unresolvedTypes (s : Service) (i : TypeIndex) : List UnresolvedType :=
  s.rejectedTypes fun t => t.isResolved && (i.resolve t).isSome

end Service

end ServiceSpec
