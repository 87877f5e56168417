import ServiceSpec.Proofs.Additions
import ServiceSpec.Proofs.SchemaReferences

/-!
# Names of an expanded service

The names that were checked to be distinct in a service are distinct in what comes of it.  Names
come from many places: declarations, standard entities, bodies of resources, error objects and
filters.  Each place looks for its names among those that are there already, so it is enough that
what one place adds is distinct in itself and is looked for.

Within a resource, the implicit columns and the standard endpoints are looked for among the declared
ones by name.  The operations of an implicit column are those of the resource that allow reading,
and a standard endpoint answers with an object or with fields, never with both.

## Main definitions

* `Resource.WellFormed`: what validation promises of a resource

## Main results

* `wellFormed_of_violations`: a resource without violations is well-formed
* `WellFormed.completed`: a well-formed resource stays so with its columns and endpoints
* `distinct_names_expand`: the names of an expanded service are distinct, and its resources
  well-formed
-/

namespace ServiceSpec

/-! ## Well-formed resources -/

namespace Resource

/-- The endpoints of a resource have distinct names, and so have its fields.  Fields use operations
that the resource allows, and no response has both an object and fields for a body. -/
structure WellFormed (r : Resource) : Prop where
  endpoints : (r.endpoints.map (·.name)).Nodup
  fields : (r.fields.map (·.name)).Nodup
  operations : ∀ c ∈ r.fields, ∀ op ∈ c.operations, op ∈ r.operations
  bodies : ∀ e ∈ r.endpoints, e.response.bodyObject.isSome → e.response.bodyFields = []

variable {r : Resource}

theorem operations_of_fieldViolations {c : ResourceField} (h : r.fieldViolations c = []) :
    ∀ op ∈ c.operations, op ∈ r.operations := by
  rw [fieldViolations, List.append_eq_nil_iff, List.map_eq_nil_iff, List.filter_eq_nil_iff] at h
  intro op hop
  simpa [allows] using h.2 op hop

theorem bodies_of_endpointViolations {e : Endpoint} (h : r.endpointViolations e = []) :
    e.response.bodyObject.isSome → e.response.bodyFields = [] := by
  rw [endpointViolations, List.append_eq_nil_iff] at h
  intro hobject
  by_contra hfields
  simp [hobject, hfields] at h

/-- **A resource without violations is well-formed.** -/
theorem wellFormed_of_violations (h : r.violations = []) : r.WellFormed := by
  simp only [violations, List.append_eq_nil_iff, List.map_eq_nil_iff, List.flatMap_eq_nil_iff,
    duplicates_eq_nil_iff] at h
  obtain ⟨⟨⟨⟨-, hcolumns⟩, hfields⟩, hresponses⟩, hendpoints⟩ := h
  exact ⟨hendpoints, hfields, fun c hc => operations_of_fieldViolations (hcolumns c hc),
    fun e he => bodies_of_endpointViolations (hresponses e he)⟩

/-! ## Columns and endpoints that are added -/

/-- The columns that are missing have distinct names, and no column has one of them. -/
theorem nodup_names_withMissingColumns (h : (r.fields.map (·.name)).Nodup) :
    ((r.missingColumns ++ r.fields).map (·.name)).Nodup := by
  rw [List.map_append, List.nodup_append]
  refine ⟨?_, h, ?_⟩
  · have himplicit : ([r.idColumn, r.auditColumn].map (·.name)).Nodup := by
      change [Standard.idField, Standard.auditField].Nodup
      decide
    rw [missingColumns]
    split
    · exact List.nodup_nil
    · exact himplicit.sublist (List.filter_sublist.map _)
  · -- a column is missing only if no field was found under its name
    rintro _ hn _ hm rfl
    obtain ⟨c, hc, rfl⟩ := List.mem_map.mp hn
    obtain ⟨x, hx, heq⟩ := List.mem_map.mp hm
    rw [missingColumns] at hc
    split at hc
    · cases hc
    · exact findField?_isNone.mp (List.mem_filter.mp hc).2 x hx heq

/-- The standard endpoints that are missing have distinct names, and no endpoint has one of them. -/
theorem nodup_names_withMissingEndpoints (h : (r.endpoints.map (·.name)).Nodup) :
    (r.missingEndpoints.map (·.name) ++ r.endpoints.map (·.name)).Nodup := by
  have hstandard : (StandardEndpoint.all.map (·.name)).Nodup := by decide
  rw [List.nodup_append]
  refine ⟨hstandard.sublist (List.filter_sublist.map _), h, ?_⟩
  rintro _ hn _ hm rfl
  obtain ⟨k, hk, rfl⟩ := List.mem_map.mp hn
  obtain ⟨e, he, heq⟩ := List.mem_map.mp hm
  obtain ⟨-, hnone⟩ := Bool.and_eq_true_iff.mp (List.mem_filter.mp hk).2
  exact findEndpoint?_isNone.mp hnone e he heq

theorem mem_autoOperations {op : Operation} :
    op ∈ r.autoOperations ↔ op = .read ∧ r.allows .read := by
  rw [autoOperations]
  split <;> simp [*]

/-- An implicit column takes part in no operation that its resource does not allow. -/
theorem operations_of_mem_missingColumns {c : ResourceField} (hc : c ∈ r.missingColumns) :
    ∀ op ∈ c.operations, op ∈ r.operations := by
  have hauto : ∀ op ∈ r.autoOperations, op ∈ r.operations := by
    intro op hop
    obtain ⟨rfl, hread⟩ := mem_autoOperations.mp hop
    exact List.contains_iff_mem.mp hread
  rcases eq_of_mem_missingColumns hc with rfl | rfl
  · exact hauto
  · exact hauto

end Resource

/-- A standard endpoint answers with an object or with fields. -/
theorem StandardEndpoint.bodyFields_build (r : Resource) (k : StandardEndpoint) :
    (k.build r).response.bodyObject.isSome → (k.build r).response.bodyFields = [] := by
  have hentity : ∀ code, (r.entityResponse code).bodyFields = [] := by
    intro code
    rw [Resource.entityResponse]
    split <;> rfl
  intro hobject
  cases k with
  | create => exact hentity 201
  | update => exact hentity 200
  | get | delete => rfl
  | list | search => cases hobject

namespace Resource

variable {r : Resource}

/-- **A well-formed resource stays so with its columns and endpoints.** -/
theorem WellFormed.completed (h : r.WellFormed) (i : TypeIndex) : (r.completed i).WellFormed where
  endpoints := by
    have hnames : (r.completed i).endpoints.map (·.name) =
        r.missingEndpoints.map (·.name) ++ r.endpoints.map (·.name) := by
      rw [Resource.completed, List.map_append, List.map_map, List.map_map]
      refine congrArg (· ++ _) (List.map_congr_left fun k _ => ?_)
      exact k.name_build _
    rw [hnames]
    exact nodup_names_withMissingEndpoints h.endpoints
  fields := by
    have hnames : (r.completed i).fields.map (·.name) =
        (r.missingColumns ++ r.fields).map (·.name) := by
      rw [Resource.completed, List.map_append, List.map_append, List.map_map]
      rfl
    rw [hnames]
    exact nodup_names_withMissingColumns h.fields
  operations c hc := by
    rcases List.mem_append.mp hc with hc | hc
    · have hadded : ∀ op ∈ c.operations, op ∈ r.operations := operations_of_mem_missingColumns hc
      exact hadded
    · obtain ⟨x, hx, rfl⟩ := List.mem_map.mp hc
      exact h.operations x hx
  bodies e he := by
    rcases List.mem_append.mp he with he | he
    · obtain ⟨k, -, rfl⟩ := List.mem_map.mp he
      exact k.bodyFields_build _
    · obtain ⟨x, hx, rfl⟩ := List.mem_map.mp he
      intro hobject
      exact List.map_eq_nil_iff.mpr (h.bodies x hx hobject)

end Resource

/-! ## Services -/

namespace Service

variable {s e : Service}

theorem wellFormed_of_mem_resources (h : s.violations = []) {r : Resource} (hr : r ∈ s.resources) :
    r.WellFormed :=
  Resource.wellFormed_of_violations ((violations_eq_nil_iff.mp h).2.2.1 r hr)

/-- **The names of an expanded service are distinct** within each kind of entity, and its resources
are well-formed. -/
theorem distinct_names_expand (h : s.expand = .ok e) :
    e.enumNames.Nodup ∧ e.objectNames.Nodup ∧ (e.resources.map (·.name)).Nodup ∧
      ∀ r ∈ e.resources, r.WellFormed := by
  obtain ⟨henums, hobjects⟩ := nodup_names_expand h
  obtain ⟨hs, -, rfl⟩ := expand_eq_ok_iff.mp h
  have hresources := (wellNamed_of_violations hs.valid).resources
  rw [resources_withFilters, resources_base_eq]
  refine ⟨henums, hobjects, ?_, ?_⟩
  · rwa [List.map_map]
  · intro x hx
    obtain ⟨r, hr, rfl⟩ := List.mem_map.mp hx
    exact (wellFormed_of_mem_resources hs.valid hr).completed _

theorem distinct_names_lending :
    lending.expand = .ok lending.base.withFilters ∧
      lending.base.withFilters.enumNames.Nodup ∧ lending.base.withFilters.objectNames.Nodup ∧
      (lending.base.withFilters.resources.map (·.name)).Nodup ∧
      ∀ r ∈ lending.base.withFilters.resources, r.WellFormed :=
  ⟨lending_expand, distinct_names_expand lending_expand⟩

end Service

end ServiceSpec
