import ServiceSpec.Model.Field

/-!
# Endpoints

An endpoint belongs to a resource, and its path is relative to the path of that resource: the
collection has the empty path, an item of it `/{id}`.

## Main definitions

* `Endpoint` : a request, a response and the error responses.
* `Endpoint.fields` : every field an endpoint carries, in a fixed order.
* `Endpoint.mapFields` : the same fields, changed in place.
-/

namespace ServiceSpec

/-- The content type of JSON bodies. -/
def jsonContentType : String := "application/json"

/-- The request of an endpoint. -/
structure Request where
  contentType : String := ""
  headers : List Field := []
  pathParams : List Field := []
  queryParams : List Field := []
  bodyParams : List Field := []
  deriving DecidableEq, Repr

/-- The tags of the body parameters a client must send. -/
def Request.requiredBodyParams (r : Request) : List String :=
  Field.requiredTags r.bodyParams

/-- The answer to a successful request.  Its body is a named object or a list of fields. -/
structure Response where
  contentType : String := ""
  statusCode : UInt16
  headers : List Field := []
  bodyFields : List Field := []
  bodyObject : Option String := none
  deriving DecidableEq, Repr

namespace Response

/-- A JSON response whose body is the named object. -/
def ofObject (statusCode : UInt16) (object : String) : Response where
  contentType := jsonContentType
  statusCode
  bodyObject := some object

/-- A JSON response whose body has the given fields. -/
def inline (statusCode : UInt16) (fields : List Field) : Response where
  contentType := jsonContentType
  statusCode
  bodyFields := fields

/-- A response without a body. -/
def empty (statusCode : UInt16) : Response where
  statusCode

/-- Whether the response has a body. -/
def hasBody (r : Response) : Bool :=
  r.bodyObject.isSome || !r.bodyFields.isEmpty

end Response

/-- The answer to a failing request. -/
structure ErrorResponse where
  statusCode : UInt16
  /-- The value of the error code enum reported for this status. -/
  code : String
  description : String
  bodyObject : String
  deriving DecidableEq, Repr

/-- An endpoint of a resource. -/
structure Endpoint where
  name : String
  title : String := ""
  summary : String := ""
  description : String := ""
  method : Method
  path : String := ""
  request : Request := {}
  response : Response := Response.empty 200
  errorResponses : List ErrorResponse := []
  deriving DecidableEq, Repr

namespace Endpoint

/-- Whether requests carry a body. -/
def hasBody (e : Endpoint) : Bool :=
  !e.request.bodyParams.isEmpty

/-- Every field of the endpoint: those of the request, then those of the response. -/
def fields (e : Endpoint) : List Field :=
  e.request.headers ++ e.request.pathParams ++ e.request.queryParams ++ e.request.bodyParams ++
    e.response.headers ++ e.response.bodyFields

/-- Changes every field of the endpoint. -/
def mapFields (f : Field → Field) (e : Endpoint) : Endpoint :=
  { e with
    request :=
      { e.request with
        headers := e.request.headers.map f
        pathParams := e.request.pathParams.map f
        queryParams := e.request.queryParams.map f
        bodyParams := e.request.bodyParams.map f }
    response :=
      { e.response with
        headers := e.response.headers.map f
        bodyFields := e.response.bodyFields.map f } }

/-- The fields of a changed endpoint are the changed fields. -/
@[simp] theorem fields_mapFields (f : Field → Field) (e : Endpoint) :
    (e.mapFields f).fields = e.fields.map f := by
  simp [fields, mapFields]

/-- The status codes an endpoint answers with: the successful one, then those of errors. -/
def statusCodes (e : Endpoint) : List UInt16 :=
  e.response.statusCode :: e.errorResponses.map (·.statusCode)

end Endpoint

end ServiceSpec
