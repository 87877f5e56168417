import ServiceSpec.Model.Forms

/-!
# OpenAPI documents

An expanded service as an OpenAPI 3.1 document.  Everything in the document comes from the service:
paths from endpoints, component schemas from enums and objects.

## Main definitions

* `Field.schema` : the schema of a field with its modifiers.
* `Endpoint.operation` : an endpoint as an operation.
* `Service.openApi` : the document of a service.
-/

namespace ServiceSpec

open Document (text texts textEntry set ofEntries)

/-- A text, or another one in its place when it is empty. -/
def orElse (s other : String) : String :=
  if s = "" then other else s

namespace OpenApi

/-- The version of the format. -/
def version : String := "3.1.0"

/-- Where component schemas are found. -/
def schemaPath : String := "#/components/schemas/"

/-- A reference to a component schema. -/
def reference (name : String) : Document :=
  .object [("$ref", text (schemaPath ++ name))]

/-- The integer of 64 bits that a text spells in decimal, with an optional sign. -/
def integer? (s : String) : Option Int :=
  let ofDigits (ds : List Char) : Option Nat :=
    if ds.isEmpty || !ds.all Char.isDigit then none
    else some (ds.foldl (fun n c => 10 * n + (c.toNat - '0'.toNat)) 0)
  let value : Option Int := match s.toList with
    | '-' :: ds => (ofDigits ds).map fun n => -(n : Int)
    | '+' :: ds => (ofDigits ds).map Int.ofNat
    | ds => (ofDigits ds).map Int.ofNat
  value.filter fun n => -9223372036854775808 ≤ n && n ≤ 9223372036854775807

/-- The truth value that a text spells. -/
def flag? (s : String) : Option Bool :=
  if s = "true" then some true else if s = "false" then some false else none

end OpenApi

open OpenApi

/-- The schema of a built-in type. -/
def Primitive.schema : Primitive → Document
  | uuid => .object [("type", text "string"), ("format", text "uuid")]
  | string => .object [("type", text "string")]
  | int => .object [("type", text "integer"), ("format", text "int64")]
  | bool => .object [("type", text "boolean")]
  | date => .object [("type", text "string"), ("format", text "date")]
  | timestamp => .object [("type", text "string"), ("format", text "date-time")]

/-- The schema of a type. -/
def TypeRef.schema : TypeRef → Document
  | primitive p => p.schema
  | object n | enum n | named n => reference n

/-- A text given for a field, as a value of the type of the field where it spells one. -/
def Field.literal (f : Field) (s : String) : Document :=
  match f.type, f.isArray with
  | .primitive .int, false => ((integer? s).map Document.integer).getD (text s)
  | .primitive .bool, false => ((flag? s).map Document.bool).getD (text s)
  | _, _ => text s

/-- The schema of the values of a field, as its entries. -/
def Field.valueSchema (f : Field) : List (String × Document) :=
  let one := f.type.schema
  let all := if f.isArray then .object [("type", text "array"), ("items", one)] else one
  match all, f.isNullable with
  | .object entries, false => entries
  | schema, _ => [("anyOf", .list [schema, .object [("type", text "null")]])]

/-- The schema of a field. -/
def Field.schema (f : Field) : Document :=
  .object (f.valueSchema ++ textEntry "description" f.description ++
    (if f.hasDefault then [("default", f.literal f.default)] else []) ++
    (if f.sample = "" then [] else [("examples", .list [f.literal f.sample])]))

/-- The schema of an object with these fields, as its entries. -/
def fieldsSchema (fields : List Field) : List (String × Document) :=
  [("type", text "object"),
    ("properties", .object (ofEntries (fields.map fun f => (f.tag, f.schema))))] ++
    match Field.requiredTags fields with
    | [] => []
    | tags => [("required", texts tags)]

/-- The schema of an object. -/
def Object.schema (o : Object) : Document :=
  .object (fieldsSchema o.fields ++ textEntry "description" o.description)

/-- The schema of an enum. -/
def Enum.schema (e : Enum) : Document :=
  .object (("type", text "string") :: textEntry "description" e.description ++
    [("enum", texts e.valueNames)])

/-- The places of parameters. -/
inductive ParameterPlace where
  | path
  | query
  | header
  deriving DecidableEq, Repr

/-- The name of a place of parameters. -/
def ParameterPlace.name : ParameterPlace → String
  | path => "path"
  | query => "query"
  | header => "header"

/-- A field as a parameter.  Parameters in the path are always required. -/
def Field.parameter (f : Field) (place : ParameterPlace) : Document :=
  .object ([("name", text f.tag), ("in", text place.name)] ++
    textEntry "description" f.description ++
    [("required", .bool (place = .path || f.isRequired)), ("schema", f.schema)])

/-- A body of a content type. -/
def content (contentType : String) (schema : Document) : Document :=
  .object [(contentType, .object [("schema", schema)])]

/-- The parameters of a request: those of the path, the query and the headers. -/
def Request.parameters (r : Request) : List Document :=
  r.pathParams.map (·.parameter .path) ++ r.queryParams.map (·.parameter .query) ++
    r.headers.map (·.parameter .header)

/-- The schema of the body of a response, if it has one. -/
def Response.schema? (r : Response) : Option Document :=
  match r.bodyObject, r.bodyFields with
  | some object, _ => some (reference object)
  | none, [] => none
  | none, fields => some (.object (fieldsSchema fields))

/-- The successful response of an endpoint. -/
def Endpoint.success (e : Endpoint) : Document :=
  let headers := e.response.headers.map fun h => (h.name, Document.object [("schema", h.schema)])
  .object (("description", text (orElse e.summary "Successful response")) ::
    (if headers.isEmpty then [] else [("headers", .object (ofEntries headers))]) ++
    match e.response.schema? with
    | none => []
    | some schema =>
      [("content", content (orElse e.response.contentType jsonContentType) schema)])

/-- An error response. -/
def ErrorResponse.document (e : ErrorResponse) : Document :=
  .object [("description", text e.description),
    ("content", content jsonContentType (reference e.bodyObject))]

/-- The responses of an endpoint by their status. -/
def Endpoint.responses (e : Endpoint) : List (String × Document) :=
  ofEntries ((toString e.response.statusCode, e.success) ::
    e.errorResponses.map fun r => (toString r.statusCode, r.document))

/-- The identifier of an endpoint of a resource. -/
def Endpoint.operationId (r : Resource) (e : Endpoint) : String :=
  Naming.camelCase e.name ++ r.name

/-- An endpoint of a resource as an operation. -/
def Endpoint.operation (r : Resource) (e : Endpoint) : Document :=
  .object (("operationId", text (e.operationId r)) :: textEntry "summary" e.summary ++
    textEntry "description" e.description ++ [("tags", texts [r.name])] ++
    (match e.request.parameters with
    | [] => []
    | parameters => [("parameters", .list parameters)]) ++
    (if e.hasBody then
      [("requestBody", .object [("required", .bool true),
        ("content", content (orElse e.request.contentType jsonContentType)
          (.object (fieldsSchema e.request.bodyParams)))])]
    else []) ++
    [("responses", .object e.responses)])

/-- Adds an operation to the item of its path. -/
def addOperation (paths : List (String × Document)) (path method : String)
    (operation : Document) : List (String × Document) :=
  match paths.lookup path with
  | some (.object item) => set path (.object (set method operation item)) paths
  | _ => set path (.object [(method, operation)]) paths

/-- The operations of a service by path and method, in order of declaration. -/
def Service.paths (s : Service) : List (String × Document) :=
  s.endpoints.foldl (fun paths (r, e) =>
    addOperation paths (r.endpointPath e) e.method.key (e.operation r)) []

/-- The component schemas of a service: those of enums, then those of objects. -/
def Service.componentSchemas (s : Service) : List (String × Document) :=
  ofEntries (s.enums.map (fun e => (e.name, e.schema)) ++
    s.objects.map fun o => (o.name, o.schema))

/-- A server. -/
def Server.document (s : Server) : Document :=
  .object (("url", text s.url) :: textEntry "description" s.description)

/-- The first object that has the name of an enum. -/
def Service.nameCollision? (s : Service) : Option String :=
  s.objectNames.find? s.hasEnum

/-- The document of a service without regard to collisions of names. -/
def Service.openApiDocument (s : Service) : Document :=
  .object ([("openapi", text OpenApi.version),
    ("info", .object [("title", text s.name), ("version", text s.version)])] ++
    (if s.servers.isEmpty then [] else [("servers", .list (s.servers.map Server.document))]) ++
    [("paths", .object s.paths),
      ("components", .object [("schemas", .object s.componentSchemas)])])

/-- The document of a service.  An object with the name of an enum would claim the same component
schema; its name is the error. -/
def Service.openApi (s : Service) : Except String Document :=
  match s.nameCollision? with
  | some name => .error name
  | none => .ok s.openApiDocument

end ServiceSpec
