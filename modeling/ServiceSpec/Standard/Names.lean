/-!
# Reserved names

Names of the entities that expansion adds to a service.  Resolution accepts them before they exist.

## Main definitions

* `Standard.objects`, `Standard.enums` : the entities every expanded service has.
* `Standard.filterNames` : the names of the filter objects derived from an object.
* `Standard.requestErrorName` : the name of the object that reports errors of a request.
-/

namespace ServiceSpec.Standard

/-- The body of every error response. -/
def error : String := "Error"

/-- The error of a single field of a request. -/
def errorField : String := "ErrorField"

/-- The position of a page within a result. -/
def pagination : String := "Pagination"

/-- The audit columns of a resource. -/
def audit : String := "Meta"

/-- The enum of error codes. -/
def errorCode : String := "ErrorCode"

/-- The enum of error codes of a field. -/
def errorFieldCode : String := "ErrorFieldCode"

/-- The objects that every expanded service has, in order. -/
def objects : List String :=
  [error, errorField, pagination, audit]

/-- The enums that every expanded service has, in order. -/
def enums : List String :=
  [errorCode, errorFieldCode]

/-- The implicit identifier column. -/
def idField : String := "ID"

/-- The implicit audit column. -/
def auditField : String := "Meta"

/-- What the name of a request error object ends in. -/
def requestErrorSuffix : String := "RequestError"

/-- What the names of the filter objects of an object end in, in order. -/
def filterSuffixes : List String :=
  ["Filter", "FilterEquals", "FilterRange", "FilterContains", "FilterLike", "FilterNull"]

/-- The name of the filter object that combines the others. -/
def filterName (object : String) : String :=
  object ++ "Filter"

/-- The names of the six filter objects of an object, in order. -/
def filterNames (object : String) : List String :=
  filterSuffixes.map (object ++ ·)

/-- The name of the request error object of the given subject. -/
def requestErrorName (subject : String) : String :=
  subject ++ requestErrorSuffix

end ServiceSpec.Standard
