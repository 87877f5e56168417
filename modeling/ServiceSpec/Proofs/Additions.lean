import ServiceSpec.Proofs.Reexpansion

/-!
# What expansion adds

Expansion takes nothing away.  All that it does to what a service declares is to resolve open types
and to fill in error responses; everything else that comes out is an addition, and additions have
their place.  Enums and objects are added behind those declared, in the order of the steps that make
them: standard objects, bodies of resources, error objects of requests, filters.  Columns and
endpoints are added before those declared.

A resource gets a body only where its name is free once the standard objects are there.  So it is
not enough that no object of its name is declared: a resource named like a standard object is read
as that object, whatever fields it has.

## Main definitions

* `TypeIndex.Resolution`: a type and what it is resolved to
* `Resource.completed`: a resource with its columns and endpoints, in terms of what it declares
* `Service.LacksBody`: a resource that an object is made for
* `Service.ExtendedBy`: one service is another one with what expansion adds to it

## Main results

* `completed_eq`: the steps of expansion complete a resource
* `objects_entities`: the objects of a service before those made for requests and searches
* `mem_endpoints_base`, `mem_endpoints_completed`: the endpoints of the outcome of base expansion
* `extendedBy_of_expand`: an expanded service extends the one it is made from
-/

namespace ServiceSpec

/-! ## Resolved types -/

namespace TypeIndex

variable {i : TypeIndex} {t : TypeRef} {n : String}

/-- What a type is resolved to: itself unless it is open, and otherwise the enum of its name, or the
object if there is no such enum. -/
inductive Resolution (i : TypeIndex) : TypeRef → TypeRef → Prop
  | resolved {t : TypeRef} (h : t.isResolved) : Resolution i t t
  | enum {n : String} (h : n ∈ i.enums) : Resolution i (.named n) (.enum n)
  | object {n : String} (he : n ∉ i.enums) (h : n ∈ i.objects) : Resolution i (.named n) (.object n)

/-- A type that is known is settled by its resolution. -/
theorem resolution_settle (h : (i.resolve t).isSome) : i.Resolution t (i.settle t) := by
  by_cases hr : t.isResolved
  · rw [settle_of_isResolved hr]
    exact .resolved hr
  · cases t with
    | named n =>
      by_cases he : n ∈ i.enums
      · rw [settle_named_of_enum he]
        exact .enum he
      · have ho : n ∈ i.objects := by simpa [resolve, hasEnum, hasObject, he] using h
        rw [settle_named_of_object he ho]
        exact .object he ho
    | _ => exact absurd rfl hr

end TypeIndex

/-- The field with its type resolved. -/
def Field.settledBy (i : TypeIndex) (f : Field) : Field :=
  { f with type := i.settle f.type }

/-- The object with the types of its fields resolved. -/
def Object.settledBy (i : TypeIndex) (o : Object) : Object :=
  { o with fields := o.fields.map (·.settledBy i) }

/-! ## Endpoints and resources -/

/-- The endpoint with its types resolved and its error responses filled in. -/
def Endpoint.completed (i : TypeIndex) (e : Endpoint) : Endpoint :=
  (e.mapFields (·.settledBy i)).withErrorResponses

/-- Resolution keeps the names in the body of an endpoint. -/
theorem Endpoint.names_bodyParams_completed (i : TypeIndex) (e : Endpoint) :
    (e.completed i).request.bodyParams.map (·.name) = e.request.bodyParams.map (·.name) :=
  List.map_map

namespace Resource

/-- The standard endpoints that the resource is entitled to and does not declare. -/
def missingEndpoints (r : Resource) : List StandardEndpoint :=
  StandardEndpoint.all.filter fun k => r.allows k.operation && (r.findEndpoint? k.name).isNone

/-- The resource with its types resolved and its columns and endpoints complete: what is missing
stands before what is declared, and standard endpoints are made for the complete columns. -/
def completed (i : TypeIndex) (r : Resource) : Resource :=
  let fields := r.missingColumns ++ r.fields.map fun c => { c with field := c.field.settledBy i }
  { r with
    fields
    endpoints :=
      r.missingEndpoints.map (fun k => (k.build { r with fields }).withErrorResponses) ++
        r.endpoints.map fun e => (e.mapFields (·.settledBy i)).withErrorResponses }

theorem missingColumns_mapLocatedFields (g : Location → Field → Field)
    (hg : ∀ l f, (g l f).name = f.name) (r : Resource) :
    (r.mapLocatedFields g).missingColumns = r.missingColumns := by
  have hfind : ∀ n, ((r.mapLocatedFields g).findField? n).isNone = (r.findField? n).isNone := by
    intro n
    rw [Bool.eq_iff_iff, findField?_isNone, findField?_isNone, mapLocatedFields,
      List.forall_mem_map]
    refine forall₂_congr fun c _ => ?_
    rw [ResourceField.name, hg]
    rfl
  rw [missingColumns, missingColumns]
  simp only [hfind]
  rfl

theorem missingEndpoints_mapLocatedFields (g : Location → Field → Field) (r : Resource) :
    (r.mapLocatedFields g).missingEndpoints = r.missingEndpoints := by
  have hfind : ∀ n,
      ((r.mapLocatedFields g).findEndpoint? n).isNone = (r.findEndpoint? n).isNone := by
    intro n
    rw [Bool.eq_iff_iff, findEndpoint?_isNone, findEndpoint?_isNone, mapLocatedFields,
      List.forall_mem_map]
    rfl
  rw [missingEndpoints, missingEndpoints]
  simp only [hfind]
  rfl

/-- Standard endpoints do not depend on the endpoints that a resource has. -/
theorem build_congr {r x : Resource} (hn : x.name = r.name) (ho : x.operations = r.operations)
    (hf : x.fields = r.fields) (k : StandardEndpoint) : k.build x = k.build r := by
  have hwith : ∀ op, x.fieldsWith op = r.fieldsWith op := fun op => by
    rw [fieldsWith, fieldsWith, hf]
  have hallows : ∀ op, x.allows op = r.allows op := fun op => by rw [allows, allows, ho]
  cases k <;>
    simp only [StandardEndpoint.build, StandardEndpoint.filterParam, entityResponse, itemPath,
      idParam, pageEnvelope, hwith, hallows, hn]

/-- **The steps of expansion complete a resource.** -/
theorem completed_eq (i : TypeIndex) (r : Resource) :
    (r.mapLocatedFields fun _ => Field.settledBy i).withAutoColumns.withStandardEndpoints =
      r.completed i := by
  have hcolumns : (r.mapLocatedFields fun _ => Field.settledBy i).missingColumns =
      r.missingColumns :=
    missingColumns_mapLocatedFields (fun _ => Field.settledBy i) (fun _ _ => rfl) r
  have hendpoints := missingEndpoints_mapLocatedFields (fun _ => Field.settledBy i) r
  have hfields : (r.mapLocatedFields fun _ => Field.settledBy i).withAutoColumns.fields =
      (r.completed i).fields := by
    rw [withAutoColumns, hcolumns]
    rfl
  have hall : (r.mapLocatedFields fun _ =>
      Field.settledBy i).withAutoColumns.withStandardEndpoints.endpoints =
        (r.completed i).endpoints := by
    change ((r.mapLocatedFields fun _ => Field.settledBy i).missingEndpoints.map _ ++
      r.endpoints.map _).map _ = r.missingEndpoints.map _ ++ r.endpoints.map _
    rw [hendpoints, List.map_append, List.map_map, List.map_map]
    refine congrArg (· ++ _) (List.map_congr_left fun k _ => ?_)
    have hbuild : k.build (r.mapLocatedFields fun _ => Field.settledBy i).withAutoColumns =
        k.build { r with fields := (r.completed i).fields } := by
      apply build_congr
      · rfl
      · rfl
      · exact hfields
    exact congrArg Endpoint.withErrorResponses hbuild
  calc (r.mapLocatedFields fun _ => Field.settledBy i).withAutoColumns.withStandardEndpoints
      = { r with
          fields := (r.mapLocatedFields fun _ => Field.settledBy i).withAutoColumns.fields
          endpoints := (r.mapLocatedFields fun _ =>
            Field.settledBy i).withAutoColumns.withStandardEndpoints.endpoints } := rfl
    _ = r.completed i := by
      rw [hall, hfields]
      rfl

/-- A complete resource has the standard endpoints that are made for it, then those it declares. -/
theorem endpoints_completed (i : TypeIndex) (r : Resource) :
    (r.completed i).endpoints =
      r.missingEndpoints.map (fun k => (k.build (r.completed i)).withErrorResponses) ++
        r.endpoints.map (·.completed i) := by
  rw [completed]
  refine congrArg (· ++ _) (List.map_congr_left fun k _ => ?_)
  exact congrArg Endpoint.withErrorResponses (build_congr rfl rfl rfl k).symm

theorem mem_endpoints_completed {i : TypeIndex} {r : Resource} {x : Endpoint} :
    x ∈ (r.completed i).endpoints ↔
      (∃ k ∈ r.missingEndpoints, (k.build (r.completed i)).withErrorResponses = x) ∨
        ∃ d ∈ r.endpoints, d.completed i = x := by
  rw [endpoints_completed, List.mem_append, List.mem_map, List.mem_map]

end Resource

/-! ## Services -/

namespace Service

variable {s e : Service}

/-- The resource can be read, and no object of its name is declared or standard: expansion makes the
object that it is read as. -/
def LacksBody (s : Service) (r : Resource) : Prop :=
  r.allows .read ∧ r.name ∉ s.objectNames ∧ r.name ∉ Standard.objects

instance (s : Service) (r : Resource) : Decidable (s.LacksBody r) :=
  inferInstanceAs (Decidable (_ ∧ _ ∧ _))

/-- The resources of the entities that get an object are those that lack one before. -/
theorem lacksBody_iff (r : Resource) (g : Location → Field → Field) :
    ((r.mapLocatedFields g).withAutoColumns.allows .read &&
        !s.resolve.1.withStandardEntities.withAutoColumns.hasObject r.name) ↔ s.LacksBody r := by
  rw [Bool.and_eq_true, Bool.not_eq_true', ← Bool.not_eq_true, hasObject_iff,
    objectNames_withAutoColumns, objectNames_withStandardEntities, mem_append_namesBeyond,
    objectNames_resolve, not_or]
  rfl

/-- The objects of a service before those made for requests and searches: those it declares, the
standard objects it does not declare, and the bodies that its resources lack. -/
def completedObjects (s : Service) : List Object :=
  s.objects.map (·.settledBy (.expected s)) ++
    Standard.objectEntities.filter (·.name ∉ s.objectNames) ++
    (s.resources.filter (s.LacksBody ·)).map fun r => (r.completed (.expected s)).bodyObject

/-- One service is another one with what expansion adds to it. -/
structure ExtendedBy (s e : Service) : Prop where
  name : e.name = s.name
  version : e.version = s.version
  servers : e.servers = s.servers
  enums : e.enums = s.enums ++ Standard.enumEntities.filter (·.name ∉ s.enumNames)
  /-- Objects are added for requests and then for searches. -/
  objects : ∃ errors filters, e.objects = s.completedObjects ++ errors ++ filters ∧
    (∀ x ∈ errors, ∃ src, RequestErrors.Serves s.completedObjects e.endpoints src ∧
      x = src.shape s.completedObjects) ∧
    ∀ x ∈ filters, ∃ o ∈ s.completedObjects ++ errors, x ∈ o.filters
  resources : e.resources = s.resources.map (·.completed (.expected s))
  /-- Only open types change. -/
  types : ∀ p ∈ s.locatedFields,
    (TypeIndex.expected s).Resolution p.2.type ((TypeIndex.expected s).settle p.2.type)

theorem resources_base_eq (s : Service) :
    s.base.resources = s.resources.map (·.completed (.expected s)) := by
  rw [resources_base]
  change (s.resources.map _).map _ = _
  rw [List.map_map]
  exact List.map_congr_left fun r _ => r.completed_eq (.expected s)

/-- The endpoints of the outcome are those of complete resources. -/
theorem mem_endpoints_base {re : Resource × Endpoint} :
    re ∈ s.base.endpoints ↔
      ∃ r ∈ s.resources, r.completed (.expected s) = re.1 ∧
        re.2 ∈ (r.completed (.expected s)).endpoints := by
  rw [mem_endpoints, resources_base_eq, List.mem_map]
  constructor
  · rintro ⟨⟨r, hr, heq⟩, he⟩
    exact ⟨r, hr, heq, heq ▸ he⟩
  · rintro ⟨r, hr, heq, he⟩
    exact ⟨⟨r, hr, heq⟩, heq ▸ he⟩

theorem enums_base_eq (s : Service) :
    s.base.enums = s.enums ++ Standard.enumEntities.filter (·.name ∉ s.enumNames) := by
  change s.enums ++ Standard.enumEntities.filter _ = _
  refine congrArg (s.enums ++ ·) (List.filter_congr fun x _ => ?_)
  rw [hasEnum_eq, show s.resolve.1.enumNames = s.enumNames from rfl, List.contains_eq_mem]
  exact decide_not.symm

/-- The objects that are there before endpoints are added. -/
theorem objects_entities (s : Service) : s.entities.objects = s.completedObjects := by
  have hstandard : Standard.objectEntities.filter (fun o => !s.resolve.1.hasObject o.name) =
      Standard.objectEntities.filter (·.name ∉ s.objectNames) := by
    refine List.filter_congr fun x _ => ?_
    rw [hasObject_eq, objectNames_resolve, List.contains_eq_mem]
    exact decide_not.symm
  have hbodies : s.entities.objects = s.resolve.1.withStandardEntities.objects ++
      (s.resources.filter (s.LacksBody ·)).map fun r =>
        (r.completed (.expected s)).bodyObject := by
    change _ ++ (((s.resources.map _).map _).filter _).map _ = _
    rw [List.map_map, List.filter_map, List.map_map]
    refine congrArg (_ ++ ·) ?_
    have hlacks : ∀ r ∈ s.resources,
        ((r.mapLocatedFields fun _ => Field.settledBy (.expected s)).withAutoColumns.allows .read &&
          !s.resolve.1.withStandardEntities.withAutoColumns.hasObject r.name) =
            decide (s.LacksBody r) := by
      intro r _
      rw [Bool.eq_iff_iff, lacksBody_iff, decide_eq_true_iff]
    refine (congrArg (List.map _) (List.filter_congr hlacks)).trans ?_
    refine List.map_congr_left fun r _ => ?_
    rw [← Resource.completed_eq]
    rfl
  rw [hbodies, completedObjects, ← hstandard]
  rfl

/-- **An expanded service extends the one it is made from.** -/
theorem extendedBy_of_expand (h : s.expand = .ok e) : s.ExtendedBy e := by
  obtain ⟨hs, -, rfl⟩ := expand_eq_ok_iff.mp h
  have hobjects : s.base.objects = s.completedObjects ++ s.requestErrors := by
    rw [objects_base, objects_entities]
  refine ⟨rfl, rfl, rfl, enums_base_eq s, ?_, resources_base_eq s, ?_⟩
  · refine ⟨s.requestErrors, missingFilters s.base.objectNames [] s.base.objects, ?_, ?_, ?_⟩
    · rw [withFilters, hobjects]
    · intro x hx
      obtain ⟨src, hsrc, rfl⟩ := RequestErrors.exists_source_of_mem hx
      rw [objects_entities] at hsrc ⊢
      exact ⟨src, hsrc, rfl⟩
    · intro x hx
      obtain ⟨o, ho, hxo⟩ := exists_owner_of_mem_missingFilters hx
      exact ⟨o, hobjects ▸ mem_of_mem_filterOwners ho, hxo⟩
  · intro p hp
    have hknown := hs.resolves
    rw [resolve, snd_resolveWith, rejectedTypes_eq_nil_iff] at hknown
    exact TypeIndex.resolution_settle (hknown p hp)

/-- A service with some of what expansion adds: it has an error object, an enum of error codes, an
identifier column and an endpoint of its own. -/
def lending : Service where
  name := "Lending"
  version := "2.1"
  servers := [{ url := "https://lending.test" }]
  enums :=
    [{ name := "State", values := [{ name := "Open" }, { name := "Closed" }] },
     { name := "ErrorCode", values := [{ name := "Overdue" }] }]
  objects :=
    [{ name := "Address"
       fields :=
         [{ name := "Street", type := .primitive .string },
          { name := "Branch", type := .named "Branch", modifiers := [.nullable] }] },
     { name := "Error", fields := [{ name := "code", type := .named "ErrorCode" }] }]
  resources :=
    [{ name := "Loan"
       operations := [.create, .read, .update]
       fields :=
         [{ field := { name := "ID", type := .primitive .string }, operations := [.read] },
          { field := { name := "State", type := .named "State" }, operations := [.create, .read] },
          { field := { name := "To", type := .named "Address" }, operations := [.create, .update] }]
       endpoints :=
         [{ name := "Get", method := .get, path := "/current", response := .ofObject 200 "Loan" },
          { name := "Close"
            method := .post
            path := "/close"
            request := .ofBody [{ name := "State", type := .named "State" }]
            response := .inline 200 [{ name := "Sent", type := .named "Address" }] }] },
     { name := "Branch", operations := [.read, .delete], skipAutoColumns := true }]

theorem lending_expand : lending.expand = .ok lending.base.withFilters :=
  expand_eq_ok_iff.mpr ⟨⟨by decide +kernel, by decide +kernel, by decide +kernel⟩,
    by decide +kernel, rfl⟩

theorem extendedBy_lending :
    lending.expand = .ok lending.base.withFilters ∧
      lending.ExtendedBy lending.base.withFilters :=
  ⟨lending_expand, extendedBy_of_expand lending_expand⟩

/-- A service with a resource that is named like a standard object. -/
def forum : Service where
  name := "Forum"
  version := "1.0"
  resources :=
    [{ name := "Pagination"
       operations := [.read]
       fields :=
         [{ field := { name := "title", type := .primitive .string }, operations := [.read] }] }]

/-- The resource is read as the standard object, though the service declares no object of its name:
no body is added for it. -/
theorem forum_expand_without_body :
    forum.expand = .ok forum.base.withFilters ∧
      ¬ ∃ rest, forum.base.withFilters.objects =
        forum.objects.map (·.settledBy (.expected forum)) ++
          Standard.objectEntities.filter (·.name ∉ forum.objectNames) ++
          ((forum.resources.filter fun r => r.allows .read ∧ r.name ∉ forum.objectNames).map
            fun r => (r.completed (.expected forum)).bodyObject) ++ rest := by
  refine ⟨expand_eq_ok_iff.mpr ⟨⟨by decide +kernel, by decide +kernel, by decide +kernel⟩,
    by decide +kernel, rfl⟩, ?_⟩
  -- the body that the resource would be read as is no object of the outcome
  rintro ⟨rest, hrest⟩
  have hbodies : ∀ o ∈ (forum.resources.filter fun r =>
      r.allows .read ∧ r.name ∉ forum.objectNames).map fun r =>
        (r.completed (.expected forum)).bodyObject, o ∈ forum.base.withFilters.objects := by
    intro o ho
    rw [hrest]
    exact List.mem_append_left _ (List.mem_append_right _ ho)
  revert hbodies
  decide +kernel

end Service

end ServiceSpec
