import ServiceSpec.Model.Service
import ServiceSpec.Standard.Names

/-!
# Standard entities

The enums and objects that every expanded service has.  A service that declares one of them under
its name keeps its own.

## Main definitions

* `Standard.errorCodes` : the error codes with their status codes.
* `Standard.errorResponses` : the error responses of an endpoint.
* `Service.withStandardEntities` : a service with the standard entities it lacks.
-/

namespace ServiceSpec

namespace Standard

/-- An error code, its status code and its meaning. -/
structure ErrorCode where
  name : String
  statusCode : UInt16
  description : String

/-- The error codes, by status code. -/
def errorCodes : List ErrorCode :=
  [⟨"BadRequest", 400, "The request is malformed"⟩,
   ⟨"Unauthorized", 401, "Authentication is required"⟩,
   ⟨"Forbidden", 403, "The caller is not allowed to perform this action"⟩,
   ⟨"NotFound", 404, "The requested entity does not exist"⟩,
   ⟨"Conflict", 409, "The request conflicts with the current state"⟩,
   ⟨"UnprocessableEntity", 422, "The request body failed validation"⟩,
   ⟨"RateLimited", 429, "Too many requests"⟩,
   ⟨"Internal", 500, "An internal error occurred"⟩]

/-- The error codes of a field, with their meaning. -/
def errorFieldCodes : List EnumValue :=
  [⟨"AlreadyExists", "The value already exists"⟩,
   ⟨"Required", "The field is required"⟩,
   ⟨"NotFound", "The referenced entity does not exist"⟩,
   ⟨"InvalidValue", "The value is invalid"⟩]

/-- The enum of error codes. -/
def errorCodeEnum : Enum where
  name := errorCode
  description := "Machine-readable error codes"
  values := errorCodes.map fun c => ⟨c.name, c.description⟩

/-- The enum of error codes of a field. -/
def errorFieldCodeEnum : Enum where
  name := errorFieldCode
  description := "Machine-readable field validation codes"
  values := errorFieldCodes

/-- The enums that every expanded service has. -/
def enumEntities : List Enum :=
  [errorCodeEnum, errorFieldCodeEnum]

/-- A field of a standard object. -/
def describedField (name : String) (type : TypeRef) (description : String := "") : Field where
  name
  type
  description

/-- The body of every error response. -/
def errorObject : Object where
  name := error
  description := "Error returned by every failing request"
  fields :=
    [describedField "code" (.enum errorCode),
     describedField "message" (.primitive .string) "Human-readable description of the error"]

/-- The error of a single field of a request. -/
def errorFieldObject : Object where
  name := errorField
  description := "Validation error for a single request field"
  fields :=
    [describedField "code" (.enum errorFieldCode),
     describedField "message" (.primitive .string) "Human-readable description of the problem"]

/-- The position of a page within a result. -/
def paginationObject : Object where
  name := pagination
  description := "Position of a page within a result set"
  fields :=
    [describedField "offset" (.primitive .int) "Number of skipped items",
     describedField "limit" (.primitive .int) "Maximum number of items in the page",
     describedField "total" (.primitive .int) "Total number of matching items"]

/-- The audit columns of a resource. -/
def auditObject : Object where
  name := audit
  description := "Audit information maintained by the server"
  fields :=
    [describedField "createdAt" (.primitive .timestamp) "When the entity was created",
     (describedField "createdBy" (.primitive .uuid) "Who created the entity").withModifier
       .nullable,
     describedField "updatedAt" (.primitive .timestamp) "When the entity was last updated",
     (describedField "updatedBy" (.primitive .uuid) "Who last updated the entity").withModifier
       .nullable]

/-- The objects that every expanded service has. -/
def objectEntities : List Object :=
  [errorObject, errorFieldObject, paginationObject, auditObject]

/-- The error responses of an endpoint, by status code.  Only a request with a body can fail its
validation. -/
def errorResponses (hasBody : Bool) : List ErrorResponse :=
  (errorCodes.filter fun c => hasBody || c.statusCode != 422).map fun c =>
    { statusCode := c.statusCode
      code := c.name
      description := c.description
      bodyObject := error }

end Standard

/-- The service with the standard enums and objects that it does not declare itself. -/
def Service.withStandardEntities (s : Service) : Service :=
  { s with
    enums := s.enums ++ Standard.enumEntities.filter fun e => !s.hasEnum e.name
    objects := s.objects ++ Standard.objectEntities.filter fun o => !s.hasObject o.name }

end ServiceSpec
