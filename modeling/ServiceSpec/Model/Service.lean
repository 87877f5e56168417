import ServiceSpec.Model.Endpoint

/-!
# Services

A service is the root of a specification: its servers, enums, objects and resources.

## Main definitions

* `Service`, `Enum`, `Object`, `Resource` : the parts of a specification.
* `Service.endpoints` : every endpoint with the resource it belongs to.
* `Resource.collectionPath`, `Resource.endpointPath` : where endpoints are reached.
-/

namespace ServiceSpec

/-- A server the service is reached at. -/
structure Server where
  url : String
  description : String := ""
  deriving DecidableEq, Repr

/-- A value of an enum. -/
structure EnumValue where
  name : String
  description : String := ""
  deriving DecidableEq, Repr

/-- A named set of text values. -/
structure Enum where
  name : String
  description : String := ""
  values : List EnumValue
  deriving DecidableEq, Repr

/-- The names of the values, in order. -/
def Enum.valueNames (e : Enum) : List String :=
  e.values.map (·.name)

/-- A named list of fields. -/
structure Object where
  name : String
  description : String := ""
  fields : List Field := []
  deriving DecidableEq, Repr

namespace Object

/-- The first field of that name. -/
def findField? (o : Object) (name : String) : Option Field :=
  o.fields.find? (·.name = name)

/-- The names of the fields, in order. -/
def fieldNames (o : Object) : List String :=
  o.fields.map (·.name)

end Object

/-- A resource with the operations it allows. -/
structure Resource where
  name : String
  description : String := ""
  operations : List Operation := []
  fields : List ResourceField := []
  endpoints : List Endpoint := []
  /-- Leaves out the identifier and audit columns. -/
  skipAutoColumns : Bool := false
  deriving DecidableEq, Repr

namespace Resource

/-- Whether the resource allows the operation. -/
def allows (r : Resource) (op : Operation) : Bool :=
  r.operations.contains op

/-- The fields that take part in the operation, in order. -/
def fieldsWith (r : Resource) (op : Operation) : List Field :=
  (r.fields.filter (·.allows op)).map (·.field)

/-- The first field of that name. -/
def findField? (r : Resource) (name : String) : Option ResourceField :=
  r.fields.find? (·.name = name)

/-- The first endpoint of that name. -/
def findEndpoint? (r : Resource) (name : String) : Option Endpoint :=
  r.endpoints.find? (·.name = name)

/-- The path of the collection: the plural of the name in kebab case. -/
def collectionPath (r : Resource) : String :=
  "/" ++ Naming.kebabCase (Naming.plural r.name)

/-- The full path of an endpoint of the resource. -/
def endpointPath (r : Resource) (e : Endpoint) : String :=
  r.collectionPath ++ e.path

end Resource

/-- The root of a specification. -/
structure Service where
  name : String
  version : String := ""
  servers : List Server := []
  enums : List Enum := []
  objects : List Object := []
  resources : List Resource := []
  deriving DecidableEq, Repr

namespace Service

/-- The first object of that name. -/
def findObject? (s : Service) (name : String) : Option Object :=
  s.objects.find? (·.name = name)

/-- The first enum of that name. -/
def findEnum? (s : Service) (name : String) : Option Enum :=
  s.enums.find? (·.name = name)

/-- The first resource of that name. -/
def findResource? (s : Service) (name : String) : Option Resource :=
  s.resources.find? (·.name = name)

/-- Whether the service declares an object of that name. -/
def hasObject (s : Service) (name : String) : Bool :=
  (s.findObject? name).isSome

/-- Whether the service declares an enum of that name. -/
def hasEnum (s : Service) (name : String) : Bool :=
  (s.findEnum? name).isSome

/-- The number of objects of that name. -/
def countObjects (s : Service) (name : String) : Nat :=
  s.objects.countP (·.name = name)

/-- The names of the objects, in order. -/
def objectNames (s : Service) : List String :=
  s.objects.map (·.name)

/-- The names of the enums, in order. -/
def enumNames (s : Service) : List String :=
  s.enums.map (·.name)

/-- Every endpoint, with the resource it belongs to. -/
def endpoints (s : Service) : List (Resource × Endpoint) :=
  s.resources.flatMap fun r => r.endpoints.map fun e => (r, e)

end Service

end ServiceSpec
