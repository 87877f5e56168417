import ServiceSpec.Standard.Entities

/-!
# Standard endpoints

Each operation that a resource allows gives it endpoints: `Create` for creation, `Get`, `List` and
`Search` for reading, `Update` and `Delete`.  A resource that declares an endpoint of one of these
names keeps its own.

## Main definitions

* `StandardEndpoint` : the six standard endpoints.
* `StandardEndpoint.build` : such an endpoint for a resource.
* `Resource.standardEndpoints` : those a resource is entitled to and lacks.
* `Resource.withStandardEndpoints` : a resource with all its endpoints and their error responses.
-/

namespace ServiceSpec

/-- The standard endpoints. -/
inductive StandardEndpoint where
  | create
  | get
  | list
  | update
  | delete
  | search
  deriving DecidableEq, Repr

namespace StandardEndpoint

/-- Every standard endpoint, in the order in which a resource gets them. -/
def all : List StandardEndpoint :=
  [create, get, list, update, delete, search]

/-- The name of a standard endpoint. -/
def name : StandardEndpoint → String
  | create => "Create"
  | get => "Get"
  | list => "List"
  | update => "Update"
  | delete => "Delete"
  | search => "Search"

/-- The operation a resource must allow to get the endpoint. -/
def operation : StandardEndpoint → Operation
  | create => .create
  | get | list | search => .read
  | update => .update
  | delete => .delete

end StandardEndpoint

namespace Resource

/-- The path parameter that identifies an item of the resource. -/
def idParam (r : Resource) : Field where
  name := Standard.idField
  type := .primitive .uuid
  description := "Unique identifier of the " ++ r.name

/-- The path of an item, relative to the collection. -/
def itemPath (r : Resource) : String :=
  "/\x7b" ++ r.idParam.tag ++ "\x7d"

/-- A response whose body is the entity, or without a body where entities cannot be read. -/
def entityResponse (r : Resource) (statusCode : UInt16) : Response :=
  if r.allows .read then .ofObject statusCode r.name else .empty statusCode

/-- The body of a page: its items and its position. -/
def pageEnvelope (r : Resource) : List Field :=
  [{ name := "data"
     type := .object r.name
     description := "The " ++ Naming.plural r.name ++ " in this page"
     modifiers := [.array] },
   { name := "pagination"
     type := .object Standard.pagination }]

end Resource

/-- The number of items of a page unless the client asks for another. -/
def defaultLimit : String := "50"

/-- A request with a JSON body. -/
def Request.ofBody (bodyParams : List Field) : Request where
  contentType := jsonContentType
  bodyParams

namespace StandardEndpoint

/-- The query parameters that choose a page. -/
def pageParams : List Field :=
  [{ name := "limit"
     type := .primitive .int
     description := "Maximum number of items to return"
     default := defaultLimit },
   { name := "offset"
     type := .primitive .int
     description := "Number of items to skip"
     default := "0" }]

/-- The body parameter that a search is made with. -/
def filterParam (r : Resource) : Field where
  name := "filter"
  type := .object (Standard.filterName r.name)
  description := "Conditions the returned " ++ Naming.plural r.name ++ " must match"

/-- The standard endpoint for a resource, whatever operations the resource allows. -/
def build (r : Resource) : StandardEndpoint → Endpoint
  | create =>
    { name := "Create"
      method := .post
      title := "Create " ++ r.name
      summary := "Create a new " ++ r.name
      description := "Creates a new " ++ r.name ++ " and returns the stored entity."
      request := .ofBody (r.fieldsWith .create)
      response := r.entityResponse 201 }
  | get =>
    { name := "Get"
      method := .get
      path := r.itemPath
      title := "Get " ++ r.name
      summary := "Get a single " ++ r.name
      description := "Returns the " ++ r.name ++ " with the given identifier."
      request := { pathParams := [r.idParam] }
      response := .ofObject 200 r.name }
  | list =>
    { name := "List"
      method := .get
      title := "List " ++ Naming.plural r.name
      summary := "List " ++ Naming.plural r.name
      description := "Returns a page of " ++ Naming.plural r.name ++ "."
      request := { queryParams := pageParams }
      response := .inline 200 r.pageEnvelope }
  | update =>
    { name := "Update"
      method := .patch
      path := r.itemPath
      title := "Update " ++ r.name
      summary := "Update an existing " ++ r.name
      description := "Updates the " ++ r.name ++ " with the given identifier."
      request := { Request.ofBody (r.fieldsWith .update) with pathParams := [r.idParam] }
      response := r.entityResponse 200 }
  | delete =>
    { name := "Delete"
      method := .delete
      path := r.itemPath
      title := "Delete " ++ r.name
      summary := "Delete an existing " ++ r.name
      description := "Deletes the " ++ r.name ++ " with the given identifier."
      request := { pathParams := [r.idParam] }
      response := .empty 204 }
  | search =>
    { name := "Search"
      method := .post
      path := "/_search"
      title := "Search " ++ Naming.plural r.name
      summary := "Search " ++ Naming.plural r.name
      description := "Returns a page of " ++ Naming.plural r.name ++ " matching a filter."
      request := .ofBody [filterParam r]
      response := .inline 200 r.pageEnvelope }

/-- A standard endpoint carries its name. -/
@[simp] theorem name_build (r : Resource) (k : StandardEndpoint) : (k.build r).name = k.name := by
  cases k <;> rfl

end StandardEndpoint

/-- The endpoint with the error responses that its request calls for. -/
def Endpoint.withErrorResponses (e : Endpoint) : Endpoint :=
  { e with errorResponses := Standard.errorResponses e.hasBody }

namespace Resource

/-- The standard endpoints whose operation the resource allows and whose name it does not use. -/
def standardEndpoints (r : Resource) : List Endpoint :=
  (StandardEndpoint.all.filter fun k =>
    r.allows k.operation && (r.findEndpoint? k.name).isNone).map (·.build r)

/-- The resource with its standard endpoints before its own ones, all with error responses. -/
def withStandardEndpoints (r : Resource) : Resource :=
  { r with endpoints := (r.standardEndpoints ++ r.endpoints).map (·.withErrorResponses) }

end Resource

end ServiceSpec
