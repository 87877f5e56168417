import ServiceSpec.Form.Schema
import ServiceSpec.Model.Published
import ServiceSpec.Model.Service
import ServiceSpec.Text.Blank

/-!
# Forms of the parts of a service

How a service and its parts are laid out in documents.  Empty texts and lists are left out where a
reader would not miss them.

## Main definitions

* `Service.form` : the layout of a specification.
* `Field.form`, `ResourceField.form`, `Endpoint.form`, … : the layouts of its parts.
-/

namespace ServiceSpec

/-- A text that must be given. -/
def Member.text (key : String) (description : String := "") : Member String where
  key
  description

/-- A text that is empty unless given, and left out when empty. -/
def Member.optionalText (key : String) (description : String := "") : Member String where
  key
  absent := some ""
  omits := (· = "")
  description

/-- A list that is empty unless given, and left out when empty. -/
def Member.optionalList {α : Type} (key : String) (description : String := "") :
    Member (List α) where
  key
  absent := some []
  omits := List.isEmpty
  description

/-- A list that is empty unless given, and always written. -/
def Member.list {α : Type} (key : String) (description : String := "") : Member (List α) where
  key
  absent := some []
  description

/-- A free text. -/
def plainText : Form String :=
  .text "a string"

/-- The type that a text in a document names.  White space around the name does not count. -/
def TypeRef.read (s : String) : Except Problem TypeRef :=
  if Text.isBlank s then .error (.blank "field type") else .ok (ofName (Text.trim s))

/-- A type is written as its name. -/
def TypeRef.form : Form TypeRef :=
  .word ⟨"TypeRef", Published.typeName⟩ TypeRef.read TypeRef.name

/-- What is said of a modifier where the schema lists it. -/
def Modifier.note : Modifier → String
  | array => "The field holds a list of values of its type."
  | nullable => "The field may be omitted or null."

/-- A modifier is written as its name. -/
def Modifier.form : Form Modifier :=
  .choice ⟨"Modifier", Published.modifier⟩ Modifier.all Modifier.name Modifier.note

/-- An operation is written as its name. -/
def Operation.form : Form Operation :=
  .choice ⟨"Operation", Published.operation⟩ Operation.all Operation.name fun _ => ""

/-- A method is written as its name. -/
def Method.form : Form Method :=
  .choice ⟨"HttpMethod", Published.method⟩ Method.all Method.name fun _ => ""

/-- The members of a field. -/
def Field.members :=
  Members.cons (.text "name") plainText <|
  .cons (.optionalText "description") plainText <|
  .cons ⟨"type", none, fun _ => false, ""⟩ TypeRef.form <|
  .cons (.optionalText "default"
    "Default value, as written in the specification. Empty means none.") plainText <|
  .cons (.optionalText "example") plainText <|
  .cons (.optionalList "modifiers") (.list Modifier.form) .nil

/-- A field from its members. -/
def Field.ofParts :
    String × String × TypeRef × String × String × List Modifier × Unit → Field :=
  fun (name, description, type, default, sample, modifiers, _) =>
    { name, description, type, default, sample, modifiers }

/-- The members of a field. -/
def Field.parts (f : Field) :
    String × String × TypeRef × String × String × List Modifier × Unit :=
  (f.name, f.description, f.type, f.default, f.sample, f.modifiers, ())

/-- The layout of a field. -/
def Field.form : Form Field :=
  .record ⟨"Field", Published.field⟩ false Field.members Field.ofParts Field.parts

/-- The layout of a field of a resource: a field, and its operations beside the members. -/
def ResourceField.form : Form ResourceField :=
  .extended ⟨"ResourceField", Published.resourceField⟩ Field.members
    (.cons (.list "operations") (.list Operation.form) .nil)
    (fun (field, operations, _) => { field := Field.ofParts field, operations })
    (fun f => (f.field.parts, f.operations, ()))

/-- The layout of an object. -/
def Object.form : Form Object :=
  .record ⟨"Object", Published.object⟩ false
    (.cons (.text "name") plainText <|
    .cons (.optionalText "description") plainText <|
    .cons (.list "fields") (.list Field.form) .nil)
    (fun (name, description, fields, _) => { name, description, fields })
    (fun o => (o.name, o.description, o.fields, ()))

/-- The layout of a value of an enum. -/
def EnumValue.form : Form EnumValue :=
  .record ⟨"EnumValue", ""⟩ false
    (.cons (.text "name") plainText <|
    .cons (.optionalText "description") plainText .nil)
    (fun (name, description, _) => { name, description })
    (fun v => (v.name, v.description, ()))

/-- The layout of an enum. -/
def Enum.form : Form Enum :=
  .record ⟨"Enum", Published.enumeration⟩ false
    (.cons (.text "name") plainText <|
    .cons (.optionalText "description") plainText <|
    .cons ⟨"values", none, fun _ => false, ""⟩ (.list EnumValue.form) .nil)
    (fun (name, description, values, _) => { name, description, values })
    (fun e => (e.name, e.description, e.values, ()))

/-- The layout of a server. -/
def Server.form : Form Server :=
  .record ⟨"Server", Published.server⟩ false
    (.cons (.text "url") plainText <|
    .cons (.optionalText "description") plainText .nil)
    (fun (url, description, _) => { url, description })
    (fun s => (s.url, s.description, ()))

/-- The layout of an error response. -/
def ErrorResponse.form : Form ErrorResponse :=
  .record ⟨"ErrorResponse", Published.errorResponse⟩ false
    (.cons ⟨"statusCode", none, fun _ => false, ""⟩ .code <|
    .cons (.text "code" "The `ErrorCode` value reported in the body for this status.")
      plainText <|
    .cons (.text "description") plainText <|
    .cons (.text "bodyObject") plainText .nil)
    (fun (statusCode, code, description, bodyObject, _) =>
      { statusCode, code, description, bodyObject })
    (fun e => (e.statusCode, e.code, e.description, e.bodyObject, ()))

/-- The layout of a request. -/
def Request.form : Form Request :=
  .record ⟨"EndpointRequest", Published.request⟩ false
    (.cons (.optionalText "contentType") plainText <|
    .cons (.optionalList "headers") (.list Field.form) <|
    .cons (.optionalList "pathParams") (.list Field.form) <|
    .cons (.optionalList "queryParams") (.list Field.form) <|
    .cons (.optionalList "bodyParams") (.list Field.form) .nil)
    (fun (contentType, headers, pathParams, queryParams, bodyParams, _) =>
      { contentType, headers, pathParams, queryParams, bodyParams })
    (fun r => (r.contentType, r.headers, r.pathParams, r.queryParams, r.bodyParams, ()))

/-- The layout of a response. -/
def Response.form : Form Response :=
  .record ⟨"EndpointResponse", Published.response⟩ false
    (.cons (.optionalText "contentType") plainText <|
    .cons ⟨"statusCode", none, fun _ => false, ""⟩ .code <|
    .cons (.optionalList "headers") (.list Field.form) <|
    .cons (.optionalList "bodyFields") (.list Field.form) <|
    .cons ⟨"bodyObject", some none, Option.isNone, ""⟩ (.optional plainText) .nil)
    (fun (contentType, statusCode, headers, bodyFields, bodyObject, _) =>
      { contentType, statusCode, headers, bodyFields, bodyObject })
    (fun r => (r.contentType, r.statusCode, r.headers, r.bodyFields, r.bodyObject, ()))

/-- The layout of an endpoint. -/
def Endpoint.form : Form Endpoint :=
  .record ⟨"Endpoint", Published.endpoint⟩ false
    (.cons (.text "name") plainText <|
    .cons (.optionalText "title") plainText <|
    .cons (.optionalText "summary") plainText <|
    .cons (.optionalText "description") plainText <|
    .cons ⟨"method", none, fun _ => false, ""⟩ Method.form <|
    .cons ⟨"path", some "", fun _ => false, ""⟩ plainText <|
    .cons ⟨"request", some {}, fun _ => false, ""⟩ Request.form <|
    .cons ⟨"response", none, fun _ => false, ""⟩ Response.form <|
    .cons (.optionalList "errorResponses"
      "Standard error responses, filled in by the base overlay.")
      (.list ErrorResponse.form) .nil)
    (fun (name, title, summary, description, method, path, request, response, errorResponses,
        _) =>
      { name, title, summary, description, method, path, request, response, errorResponses })
    (fun e => (e.name, e.title, e.summary, e.description, e.method, e.path, e.request, e.response,
      e.errorResponses, ()))

/-- The layout of a resource. -/
def Resource.form : Form Resource :=
  .record ⟨"Resource", Published.resource⟩ false
    (.cons (.text "name") plainText <|
    .cons (.optionalText "description") plainText <|
    .cons (.list "operations") (.list Operation.form) <|
    .cons (.list "fields") (.list ResourceField.form) <|
    .cons (.list "endpoints"
      "Custom endpoints, and after the base overlay the standard ones too.")
      (.list Endpoint.form) <|
    .cons ⟨"skipAutoColumns", some false, (!·), "Skips the implicit `ID` and `Meta` columns."⟩
      .flag .nil)
    (fun (name, description, operations, fields, endpoints, skipAutoColumns, _) =>
      { name, description, operations, fields, endpoints, skipAutoColumns })
    (fun r => (r.name, r.description, r.operations, r.fields, r.endpoints, r.skipAutoColumns, ()))

/-- The layout of a specification. -/
def Service.form : Form Service :=
  .record ⟨"Service", Published.service⟩ false
    (.cons (.text "name") plainText <|
    .cons (.optionalText "version") plainText <|
    .cons (.optionalList "servers") (.list Server.form) <|
    .cons (.list "enums") (.list Enum.form) <|
    .cons (.list "objects") (.list Object.form) <|
    .cons (.list "resources") (.list Resource.form) .nil)
    (fun (name, version, servers, enums, objects, resources, _) =>
      { name, version, servers, enums, objects, resources })
    (fun s => (s.name, s.version, s.servers, s.enums, s.objects, s.resources, ()))

/-- The schema of specifications. -/
def specificationSchema : Document :=
  Service.form.publish

end ServiceSpec
