import ServiceSpec.Standard.Entities

/-!
# Request error objects

For each request with a body there is an object of the same shape that says what is wrong with each
field.  A field that refers to a known object refers to the error object of that object; any other
field holds a single field error.

Error objects of nested objects are built once and stand before those that refer to them.  The name
of an error object is reserved before its fields are followed, so cycles end.

## Main definitions

* `Field.errorShape`, `Object.errorShape` : the error shape of a field and of an object.
* `RequestErrors.visit` : the error objects reached from an object.
* `RequestErrors.ofEndpoints` : the error objects of a sequence of endpoints.
-/

namespace ServiceSpec

/-- The known object that a field refers to. -/
def nestedObject? (objects : List Object) (f : Field) : Option Object :=
  f.type.objectName?.bind fun n => objects.find? (·.name = n)

/-- The error shape of a field: nullable, with the description of the field, and a list where the
field is a list of a known object. -/
def Field.errorShape (objects : List Object) (f : Field) : Field :=
  match nestedObject? objects f with
  | some o =>
    { name := f.name
      description := f.description
      type := .object (Standard.requestErrorName o.name)
      modifiers := if f.isArray then [.array, .nullable] else [.nullable] }
  | none =>
    { name := f.name
      description := f.description
      type := .object Standard.errorField
      modifiers := [.nullable] }

/-- The error object of an object. -/
def Object.errorShape (objects : List Object) (o : Object) : Object where
  name := Standard.requestErrorName o.name
  description := "Validation errors for " ++ o.name
  fields := o.fields.map (Field.errorShape objects)

/-- The name of the error object of an endpoint. -/
def Endpoint.requestErrorName (r : Resource) (e : Endpoint) : String :=
  Standard.requestErrorName (r.name ++ e.name)

/-- The error object of a request body. -/
def Endpoint.errorShape (objects : List Object) (r : Resource) (e : Endpoint) : Object where
  name := e.requestErrorName r
  description := "Validation errors for the " ++ r.name ++ " " ++ e.name ++ " request"
  fields := e.request.bodyParams.map (Field.errorShape objects)

/-- The error objects built so far, and every name that is taken. -/
structure RequestErrors where
  reserved : List String
  emitted : List Object

namespace RequestErrors

/-- Nothing is built yet, and the names of the known objects are taken. -/
def start (objects : List Object) : RequestErrors where
  reserved := objects.map (·.name)
  emitted := []

/-- Takes a name. -/
def reserve (p : RequestErrors) (name : String) : RequestErrors :=
  { p with reserved := name :: p.reserved }

/-- Adds an error object. -/
def emit (p : RequestErrors) (o : Object) : RequestErrors :=
  { p with emitted := p.emitted ++ [o] }

/-- Builds the error object of an object, unless its name is taken, after those it refers to.  Each
level takes the name of another known object, so `depth` need not exceed their number. -/
def visit (objects : List Object) (depth : Nat) (p : RequestErrors) (o : Object) : RequestErrors :=
  match depth with
  | 0 => p
  | depth + 1 =>
    let name := Standard.requestErrorName o.name
    if p.reserved.contains name then p
    else
      ((o.fields.filterMap (nestedObject? objects)).foldl (visit objects depth)
        (p.reserve name)).emit (o.errorShape objects)

/-- Builds the error object of an endpoint with a body, unless its name is taken, after those it
refers to. -/
def visitEndpoint (objects : List Object) (p : RequestErrors) (re : Resource × Endpoint) :
    RequestErrors :=
  let (r, e) := re
  if !e.hasBody || p.reserved.contains (e.requestErrorName r) then p
  else
    ((e.request.bodyParams.filterMap (nestedObject? objects)).foldl
      (visit objects objects.length) (p.reserve (e.requestErrorName r))).emit
      (e.errorShape objects r)

/-- The error objects of a sequence of endpoints, nested ones first. -/
def ofEndpoints (objects : List Object) (endpoints : List (Resource × Endpoint)) : List Object :=
  (endpoints.foldl (visitEndpoint objects) (start objects)).emitted

end RequestErrors

/-- The service with the error objects of its requests. -/
def Service.withRequestErrors (s : Service) : Service :=
  { s with objects := s.objects ++ RequestErrors.ofEndpoints s.objects s.endpoints }

end ServiceSpec
