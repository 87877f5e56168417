import ServiceSpec.Expansion.Endpoints
import ServiceSpec.Expansion.Error
import ServiceSpec.Expansion.Filters
import ServiceSpec.Expansion.RequestErrors

/-!
# Base expansion

A minimal service becomes a complete one: types are resolved, standard entities and columns are
added, readable resources get an object, resources get their standard endpoints, and requests get
their error objects.  Each step leaves alone what is there already.

## Main definitions

* `Resource.withAutoColumns` : a resource with its identifier and audit columns.
* `Resource.bodyObject` : the object a resource is read as.
* `Service.expandBase` : all steps, after validation.
-/

namespace ServiceSpec

namespace Resource

/-- The operations of the implicit columns: they are read where the resource is. -/
def autoOperations (r : Resource) : List Operation :=
  if r.allows .read then [.read] else []

/-- The implicit identifier column. -/
def idColumn (r : Resource) : ResourceField where
  field := r.idParam
  operations := r.autoOperations

/-- The implicit audit column. -/
def auditColumn (r : Resource) : ResourceField where
  field :=
    { name := Standard.auditField
      type := .object Standard.audit
      description := "Audit information maintained by the server" }
  operations := r.autoOperations

/-- The implicit columns that a resource lacks. -/
def missingColumns (r : Resource) : List ResourceField :=
  if r.skipAutoColumns then []
  else [r.idColumn, r.auditColumn].filter fun c => (r.findField? c.name).isNone

/-- The resource with the implicit columns before its own fields. -/
def withAutoColumns (r : Resource) : Resource :=
  { r with fields := r.missingColumns ++ r.fields }

/-- The object a resource is read as: its readable fields. -/
def bodyObject (r : Resource) : Object where
  name := r.name
  description := r.description
  fields := r.fieldsWith .read

end Resource

namespace Service

/-- The service whose resources have their implicit columns. -/
def withAutoColumns (s : Service) : Service :=
  { s with resources := s.resources.map (·.withAutoColumns) }

/-- The service with an object for each readable resource that does not declare one. -/
def withBodyObjects (s : Service) : Service :=
  { s with
    objects := s.objects ++
      (s.resources.filter fun r => r.allows .read && !s.hasObject r.name).map (·.bodyObject) }

/-- The service whose resources have their standard endpoints. -/
def withStandardEndpoints (s : Service) : Service :=
  { s with resources := s.resources.map (·.withStandardEndpoints) }

/-- The service with everything but endpoints and the objects made for them. -/
def withEntities (s : Service) : Service :=
  s.withStandardEntities.withAutoColumns.withBodyObjects

/-- The base expansion of a service: a complete service but for the filters of its objects. -/
def expandBase (s : Service) : Except ExpansionError Service := do
  s.validate.mapError .invalid
  let (resolved, unresolved) := s.resolve
  unless unresolved.isEmpty do
    throw (.reference unresolved)
  let entities := resolved.withEntities
  entities.checkFilterNames.mapError .invalid
  return entities.withStandardEndpoints.withRequestErrors

end Service

end ServiceSpec
