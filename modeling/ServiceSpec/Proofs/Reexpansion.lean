import ServiceSpec.Proofs.FullExpansion

/-!
# Expansion of an expanded service

Each step of expansion checks by name whether what it would add is there already.  A service is
complete when every one of these checks finds its name, and then every step leaves it alone.  The
outcome of base expansion is complete, and stays complete with its filters.

A complete service is not always accepted a second time.  Expansion can make names that validation
refuses, as an object with the name of an enum, and it can make objects that stand in the place of a
filter.  These two checks are all that a second expansion can fail at: its types are settled, since
what was expected of the service before is expected of it still.

## Main definitions

* `Service.Complete`: a service to which no step of base expansion adds anything
* `Service.KeptBy`: what may come of a service that is expanded again

## Main results

* `complete_base`, `Complete.withFilters`: the outcomes of expansion are complete
* `Complete.base_eq`: the base expansion of a complete service is the service itself
* `keptBy_of_expand`: an expanded service is kept by expansion
-/

namespace ServiceSpec

/-! ## Resources -/

namespace Resource

theorem findField?_isNone {r : Resource} {n : String} :
    (r.findField? n).isNone ↔ ∀ c ∈ r.fields, c.name ≠ n := by
  simp [findField?]

theorem findEndpoint?_isNone {r : Resource} {n : String} :
    (r.findEndpoint? n).isNone ↔ ∀ e ∈ r.endpoints, e.name ≠ n := by
  simp [findEndpoint?]

/-- The implicit columns are added once. -/
theorem missingColumns_withAutoColumns (r : Resource) : r.withAutoColumns.missingColumns = [] := by
  cases hskip : r.skipAutoColumns with
  | true =>
    rw [missingColumns]
    exact if_pos hskip
  | false =>
    have hadd : r.missingColumns =
        [r.idColumn, r.auditColumn].filter fun c => (r.findField? c.name).isNone := by
      rw [missingColumns, hskip, if_neg Bool.false_ne_true]
    have hagain : r.withAutoColumns.missingColumns =
        [r.idColumn, r.auditColumn].filter fun c =>
          (r.withAutoColumns.findField? c.name).isNone := by
      rw [missingColumns, show r.withAutoColumns.skipAutoColumns = false from hskip,
        if_neg Bool.false_ne_true]
      rfl
    rw [hagain, List.filter_eq_nil_iff]
    intro c hc hnone
    have hfree := findField?_isNone.mp hnone
    -- a column that is still missing was missing before, so it was added
    have hbefore : (r.findField? c.name).isNone :=
      findField?_isNone.mpr fun x hx => hfree x (List.mem_append_right _ hx)
    exact hfree c (List.mem_append_left _ (hadd ▸ List.mem_filter.mpr ⟨hc, hbefore⟩)) rfl

theorem withAutoColumns_eq_self {r : Resource} (h : r.missingColumns = []) :
    r.withAutoColumns = r := by
  rw [withAutoColumns, h, List.nil_append]

/-- A resource with its standard endpoints is entitled to no further ones. -/
theorem standardEndpoints_withStandardEndpoints (r : Resource) :
    r.withStandardEndpoints.standardEndpoints = [] := by
  rw [standardEndpoints, List.map_eq_nil_iff, List.filter_eq_nil_iff]
  intro k hk hmissing
  obtain ⟨hallows, hnone⟩ := Bool.and_eq_true_iff.mp hmissing
  have hfree := findEndpoint?_isNone.mp hnone
  have hmem : ∀ e ∈ r.standardEndpoints ++ r.endpoints, e.name ≠ k.name := fun e he =>
    hfree e.withErrorResponses (List.mem_map_of_mem he)
  have hbefore : (r.findEndpoint? k.name).isNone :=
    findEndpoint?_isNone.mpr fun e he => hmem e (List.mem_append_right _ he)
  refine hmem (k.build r) (List.mem_append_left _ (List.mem_map_of_mem ?_)) (k.name_build r)
  exact List.mem_filter.mpr ⟨hk, Bool.and_eq_true_iff.mpr ⟨hallows, hbefore⟩⟩

/-- Standard endpoints are added once, and error responses stay as they are. -/
theorem withStandardEndpoints_withStandardEndpoints (r : Resource) :
    r.withStandardEndpoints.withStandardEndpoints = r.withStandardEndpoints := by
  rw [withStandardEndpoints.eq_def r.withStandardEndpoints,
    standardEndpoints_withStandardEndpoints, List.nil_append]
  have hmap : r.withStandardEndpoints.endpoints.map (·.withErrorResponses) =
      r.withStandardEndpoints.endpoints := by
    apply map_eq_self
    intro x hx
    obtain ⟨e, -, rfl⟩ := List.mem_map.mp hx
    rfl
  rw [hmap]

end Resource

/-! ## Complete services -/

namespace Service

/-- A service to which no step of base expansion adds anything. -/
structure Complete (s : Service) : Prop where
  enums : ∀ n ∈ Standard.enums, n ∈ s.enumNames
  objects : ∀ n ∈ Standard.objects, n ∈ s.objectNames
  columns : ∀ r ∈ s.resources, r.missingColumns = []
  bodies : ∀ n ∈ s.readableNames, n ∈ s.objectNames
  endpoints : ∀ r ∈ s.resources, r.withStandardEndpoints = r
  requestErrors : ∀ re ∈ s.endpoints, re.2.hasBody →
    re.2.requestErrorName re.1 ∈ s.objectNames

variable {s : Service}

/-- **The outcome of base expansion is complete.** -/
theorem complete_base (s : Service) : s.base.Complete where
  enums n hn := mem_enumNames_base.mpr (mem_expected_enums.mpr (.inr hn))
  objects n hn := mem_objectNames_base_of_owner (mem_expectedOwners.mpr (.inr (.inl hn)))
  columns x hx := by
    rw [resources_base] at hx
    obtain ⟨r, -, rfl⟩ := List.mem_map.mp hx
    exact r.missingColumns_withAutoColumns
  bodies n hn := by
    rw [readableNames_base] at hn
    exact mem_objectNames_base_of_owner (mem_expectedOwners.mpr (.inr (.inr hn)))
  endpoints x hx := by
    rw [resources_base] at hx
    obtain ⟨r, -, rfl⟩ := List.mem_map.mp hx
    exact r.withAutoColumns.withStandardEndpoints_withStandardEndpoints
  requestErrors _ hre hb := mem_objectNames_base.mpr
    (RequestErrors.requestErrorName_mem hre hb)

/-- Filters take nothing away from a complete service. -/
theorem Complete.withFilters (h : s.Complete) : s.withFilters.Complete where
  enums := h.enums
  objects n hn := objectNames_subset_withFilters (h.objects n hn)
  columns := h.columns
  bodies n hn := objectNames_subset_withFilters (h.bodies n hn)
  endpoints := h.endpoints
  requestErrors re hre hb := objectNames_subset_withFilters (h.requestErrors re hre hb)

namespace Complete

theorem withStandardEntities_eq (h : s.Complete) : s.withStandardEntities = s := by
  have henums : Standard.enumEntities.filter (fun e => !s.hasEnum e.name) = [] := by
    rw [List.filter_eq_nil_iff]
    intro e he
    simpa using hasEnum_iff.mpr (h.enums e.name (List.mem_map_of_mem he))
  have hobjects : Standard.objectEntities.filter (fun o => !s.hasObject o.name) = [] := by
    rw [List.filter_eq_nil_iff]
    intro o ho
    simpa using hasObject_iff.mpr (h.objects o.name (List.mem_map_of_mem ho))
  rw [withStandardEntities, henums, hobjects, List.append_nil, List.append_nil]

theorem withAutoColumns_eq (h : s.Complete) : s.withAutoColumns = s := by
  have hmap : s.resources.map (·.withAutoColumns) = s.resources :=
    map_eq_self fun r hr => Resource.withAutoColumns_eq_self (h.columns r hr)
  rw [withAutoColumns, hmap]

theorem withBodyObjects_eq (h : s.Complete) : s.withBodyObjects = s := by
  have hnone : s.resources.filter (fun r => r.allows .read && !s.hasObject r.name) = [] := by
    rw [List.filter_eq_nil_iff]
    intro r hr hmissing
    obtain ⟨hallows, hfree⟩ := Bool.and_eq_true_iff.mp hmissing
    have hthere := hasObject_iff.mpr (h.bodies r.name (mem_readableNames.mpr ⟨r, hr, hallows, rfl⟩))
    simp [hthere] at hfree
  rw [withBodyObjects, hnone, List.map_nil, List.append_nil]

theorem withStandardEndpoints_eq (h : s.Complete) : s.withStandardEndpoints = s := by
  rw [withStandardEndpoints, map_eq_self h.endpoints]

theorem withRequestErrors_eq (h : s.Complete) : s.withRequestErrors = s := by
  rw [withRequestErrors, RequestErrors.ofEndpoints_eq_nil h.requestErrors, List.append_nil]

/-- A complete service that expects its own types has all its entities. -/
theorem entities_eq (h : s.Complete) (hs : s.Settled (TypeIndex.expected s)) :
    s.entities = s := by
  rw [entities, resolve, resolveWith_of_settled hs, withEntities, h.withStandardEntities_eq,
    h.withAutoColumns_eq, h.withBodyObjects_eq]

/-- **The base expansion of a complete service is the service itself.** -/
theorem base_eq (h : s.Complete) (hs : s.Settled (TypeIndex.expected s)) : s.base = s := by
  rw [base, h.entities_eq hs, h.withStandardEndpoints_eq, h.withRequestErrors_eq]

end Complete

/-! ## Expansion again -/

/-- What may come of a service that is expanded again: the same service, or a failure of one of the
two checks of names. -/
def KeptBy (expansion : Service → Except ExpansionError Service) (s : Service) : Prop :=
  expansion s = .ok s ∨ ∃ errors, expansion s = .error (.invalid errors) ∧
    (s.validate = .error errors ∨ s.checkFilterNames = .error errors)

/-- A complete service that expects its own types is kept by base expansion. -/
theorem Complete.keptBy_expandBase (h : s.Complete) (hs : s.Settled (TypeIndex.expected s)) :
    s.KeptBy expandBase := by
  have hr : s.resolve.2 = [] := by rw [resolve, resolveWith_of_settled hs]
  by_cases hv : s.violations = []
  · by_cases hc : s.filterNameViolations = []
    · refine .inl (expandBase_eq_ok_iff.mpr ⟨⟨hv, hr, ?_⟩, (h.base_eq hs).symm⟩)
      rwa [h.entities_eq hs]
    · refine .inr ⟨s.filterNameViolations, ?_, .inr (checkFilterNames_of_ne_nil hc)⟩
      rw [← h.entities_eq hs] at hc
      rw [expandBase_of_clash hv hr hc, h.entities_eq hs]
  · exact .inr ⟨s.violations, expandBase_of_violations hv, .inl (validate_of_ne_nil hv)⟩

/-- The outcome of base expansion expects its own types. -/
theorem settled_base_expected (h : s.Expandable) : s.base.Settled (TypeIndex.expected s.base) :=
  settled_base h.resolves (expected_sub_expected_base s) fun _ hn =>
    mem_expected_objects.mpr (.inl (mem_expectedOwners.mpr (.inl hn)))

/-- A complete service with all its filters is kept by expansion. -/
theorem Complete.keptBy_expand (h : s.Complete) (hv : s.verifyReferences = .ok ())
    (hf : s.withFilters = s) : s.KeptBy expand := by
  have hs : s.Settled (TypeIndex.expected s) :=
    (verifyReferences_eq_ok_iff.mp hv).1.mono (declared_sub_expected s)
  rcases h.keptBy_expandBase hs with hb | ⟨errors, hb, hcause⟩
  · refine .inl ?_
    rw [expand_of_expandBase hb, hf, hv]
    rfl
  · exact .inr ⟨errors, expand_of_error hb, hcause⟩

/-- **An expanded service is kept by expansion**, and so is the outcome of base expansion by base
expansion. -/
theorem keptBy_of_expand (s e : Service) :
    (s.expand = .ok e → e.KeptBy expand) ∧ (s.expandBase = .ok e → e.KeptBy expandBase) := by
  constructor
  · intro h
    obtain ⟨-, hv, rfl⟩ := expand_eq_ok_iff.mp h
    exact s.complete_base.withFilters.keptBy_expand hv s.base.withFilters_withFilters
  · intro h
    obtain ⟨hs, rfl⟩ := expandBase_eq_ok_iff.mp h
    exact s.complete_base.keptBy_expandBase (settled_base_expected hs)

theorem keptBy_of_expand_bookshop :
    bookshop.expand = .ok bookshop.base.withFilters ∧ bookshop.base.withFilters.KeptBy expand ∧
      bookshop.expandBase = .ok bookshop.base ∧ bookshop.base.KeptBy expandBase := by
  exact ⟨bookshop_expand, (keptBy_of_expand bookshop _).1 bookshop_expand, bookshop_expandBase,
    (keptBy_of_expand bookshop _).2 bookshop_expandBase⟩

end Service

end ServiceSpec
