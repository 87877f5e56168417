import ServiceSpec.Resolution
import ServiceSpec.Text.Blank

/-!
# Validation of services

The structural rules of a service that no single value breaks alone: names are given and distinct,
fields use operations their resource allows, a response has one kind of body, an enum has values.

## Main definitions

* `ValidationError` : what can be wrong.
* `Service.violations` : everything that is wrong with a service, in order.
* `Service.validateAndResolve` : validation, then resolution of types.
-/

namespace ServiceSpec

/-- The kinds of entities whose names must be distinct. -/
inductive NameKind where
  | enumValue
  | enum
  | object
  | resource
  deriving DecidableEq, Repr

/-- The word for a kind of entity. -/
def NameKind.word : NameKind → String
  | enumValue => "enum value"
  | enum => "enum"
  | object => "object"
  | resource => "resource"

/-- The lists in which a name may be missing. -/
inductive NameSite where
  | enums
  | objects
  | objectFields (object : String)
  | resources
  | resourceFields (resource : String)
  | endpoints (resource : String)
  deriving DecidableEq, Repr

/-- The dotted path of a list of names. -/
def NameSite.path : NameSite → String
  | enums => "enums"
  | objects => "objects"
  | objectFields o => "objects." ++ o ++ ".fields"
  | resources => "resources"
  | resourceFields r => "resources." ++ r ++ ".fields"
  | endpoints r => "resources." ++ r ++ ".endpoints"

/-- The entities that own fields. -/
inductive FieldOwner where
  | object (name : String)
  | resource (name : String)
  deriving DecidableEq, Repr

/-- The wording of an owner of fields. -/
def FieldOwner.text : FieldOwner → String
  | object n => "object '" ++ n ++ "'"
  | resource n => "resource '" ++ n ++ "'"

/-- What can be wrong with a service. -/
inductive ValidationError where
  /-- Two entities of one kind share a name. -/
  | duplicateName (kind : NameKind) (name : String)
  /-- An object and an enum share a name. -/
  | objectEnumClash (name : String)
  /-- A name is blank. -/
  | emptyName (site : NameSite)
  /-- Two fields of one owner share a name. -/
  | duplicateField (owner : FieldOwner) (field : String)
  /-- Two endpoints of a resource share a name. -/
  | duplicateEndpoint (resource endpoint : String)
  /-- A type name stands for nothing known. -/
  | unknownType (type : UnresolvedType)
  /-- A field takes part in an operation that its resource does not allow. -/
  | operationNotAllowed (resource field : String) (operation : Operation)
  /-- An enum has no values. -/
  | emptyEnum (name : String)
  /-- A response has both kinds of body. -/
  | conflictingResponseBody (resource endpoint : String)
  /-- An object has the name of a filter derived from another, but not its shape. -/
  | filterNameClash (name owner : String)
  deriving DecidableEq, Repr

namespace ValidationError

/-- The wording of a violation. -/
def message : ValidationError → String
  | duplicateName kind name => "duplicate " ++ kind.word ++ " name '" ++ name ++ "'"
  | objectEnumClash name => "'" ++ name ++ "' is declared both as an object and as an enum"
  | emptyName site => "empty name at " ++ site.path
  | duplicateField owner field => "duplicate field '" ++ field ++ "' in " ++ owner.text
  | duplicateEndpoint resource endpoint =>
    "duplicate endpoint '" ++ endpoint ++ "' in resource '" ++ resource ++ "'"
  | unknownType u => u.message
  | operationNotAllowed resource field op =>
    "field '" ++ field ++ "' of resource '" ++ resource ++ "' declares operation " ++ op.name ++
      ", which the resource does not allow"
  | emptyEnum name => "enum '" ++ name ++ "' has no values"
  | conflictingResponseBody resource endpoint =>
    "endpoint '" ++ endpoint ++ "' of resource '" ++ resource ++
      "' sets both bodyObject and bodyFields on its response"
  | filterNameClash name owner =>
    "object '" ++ name ++ "' collides with a filter object derived from '" ++ owner ++ "'"

/-- The wording of several violations: one alone, or a list under their number. -/
def summary : List ValidationError → String
  | [e] => e.message
  | es => toString es.length ++ " validation errors:" ++
      String.join (es.map fun e => "\n  - " ++ e.message)

end ValidationError

/-- The names that stand at their second occurrence, given those already seen. -/
def duplicatesAfter (seen : List String) : List String → List String
  | [] => []
  | n :: rest =>
    let later := duplicatesAfter (n :: seen) rest
    if seen.count n = 1 then n :: later else later

/-- The repeated names of a list, each once, in the order of their second occurrences. -/
def duplicates (names : List String) : List String :=
  duplicatesAfter [] names

open ValidationError

/-- What is wrong with an enum. -/
def Enum.violations (e : Enum) : List ValidationError :=
  (if Text.isBlank e.name then [emptyName .enums] else []) ++
    (if e.values.isEmpty then [emptyEnum e.name] else []) ++
    (duplicates e.valueNames).map fun v => duplicateName .enumValue (e.name ++ "." ++ v)

/-- What is wrong with an object. -/
def Object.violations (o : Object) : List ValidationError :=
  (if Text.isBlank o.name then [emptyName .objects] else []) ++
    ((o.fields.filter fun f => Text.isBlank f.name).map fun _ =>
      emptyName (.objectFields o.name)) ++
    (duplicates o.fieldNames).map (duplicateField (.object o.name))

/-- What is wrong with a field of a resource. -/
def Resource.fieldViolations (r : Resource) (f : ResourceField) : List ValidationError :=
  (if Text.isBlank f.name then [emptyName (.resourceFields r.name)] else []) ++
    (f.operations.filter fun op => !r.allows op).map (operationNotAllowed r.name f.name)

/-- What is wrong with an endpoint of a resource. -/
def Resource.endpointViolations (r : Resource) (e : Endpoint) : List ValidationError :=
  (if Text.isBlank e.name then [emptyName (.endpoints r.name)] else []) ++
    if e.response.bodyObject.isSome && !e.response.bodyFields.isEmpty then
      [conflictingResponseBody r.name e.name]
    else []

/-- What is wrong with a resource. -/
def Resource.violations (r : Resource) : List ValidationError :=
  (if Text.isBlank r.name then [emptyName .resources] else []) ++
    r.fields.flatMap r.fieldViolations ++
    (duplicates (r.fields.map (·.name))).map (duplicateField (.resource r.name)) ++
    r.endpoints.flatMap r.endpointViolations ++
    (duplicates (r.endpoints.map (·.name))).map (duplicateEndpoint r.name)

namespace Service

/-- The names that an object shares with an enum, each once. -/
def clashingNames (s : Service) : List String :=
  (s.objectNames.filter s.enumNames.contains).eraseDups

/-- Names that are not distinct across the service. -/
def nameViolations (s : Service) : List ValidationError :=
  (duplicates s.enumNames).map (duplicateName .enum) ++
    (duplicates s.objectNames).map (duplicateName .object) ++
    (duplicates (s.resources.map (·.name))).map (duplicateName .resource) ++
    s.clashingNames.map objectEnumClash

/-- Everything that is wrong with the structure of a service, entity by entity, then across it. -/
def violations (s : Service) : List ValidationError :=
  s.enums.flatMap Enum.violations ++ s.objects.flatMap Object.violations ++
    s.resources.flatMap Resource.violations ++ s.nameViolations

/-- Checks the structure of a service. -/
def validate (s : Service) : Except (List ValidationError) Unit :=
  if s.violations.isEmpty then .ok () else .error s.violations

/-- Checks the structure of a service, then resolves its types. -/
def validateAndResolve (s : Service) : Except (List ValidationError) Service := do
  s.validate
  match s.resolve with
  | (resolved, []) => return resolved
  | (_, unresolved) => throw (unresolved.map unknownType)

end Service

end ServiceSpec
