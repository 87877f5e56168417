import ServiceSpec.Expansion.Base
import ServiceSpec.Proofs.RequestErrors
import ServiceSpec.Proofs.Resolution
import ServiceSpec.Proofs.Validation

/-!
# The base expansion

The base expansion succeeds on a service without violations, unknown types and clashes with filters,
and then its outcome is known: the entities of the service, their endpoints, and the error objects
of these.  This is where the steps are taken apart; what they add is said by the names they add, and
what they keep by the types they keep settled.

## Main definitions

* `Service.entities`: a resolved service with everything but endpoints and their error objects
* `Service.base`: the outcome of the base expansion
* `Service.requestErrors`: the error objects that base expansion adds
* `Service.Expandable`: a service that base expansion accepts

## Main results

* `expandBase_eq_ok_iff`: when base expansion succeeds, and with what
* `mem_objectNames_entities`, `mem_enumNames_base`: the names of the outcome
* `settled_base`: the outcome is settled for every index that has its names
-/

namespace ServiceSpec

namespace Service

/-! ## Outcomes -/

/-- The service with its types resolved and everything but endpoints and their error objects. -/
def entities (s : Service) : Service :=
  s.resolve.1.withEntities

/-- The outcome of the base expansion, where it succeeds. -/
def base (s : Service) : Service :=
  s.entities.withStandardEndpoints.withRequestErrors

/-- The error objects that base expansion adds. -/
def requestErrors (s : Service) : List Object :=
  RequestErrors.ofEndpoints s.entities.objects s.base.endpoints

/-- A service that base expansion accepts: it has no violations and no unknown types, and no object
stands in the place of a filter. -/
structure Expandable (s : Service) : Prop where
  valid : s.violations = []
  resolves : s.resolve.2 = []
  unclashed : s.entities.filterNameViolations = []

variable {s : Service}

theorem validate_of_nil (h : s.violations = []) : s.validate = .ok () := by
  rw [validate, h]
  rfl

theorem validate_of_ne_nil (h : s.violations ≠ []) : s.validate = .error s.violations := by
  rw [validate, if_neg (by simpa using h)]

theorem validate_eq_ok_iff : s.validate = .ok () ↔ s.violations = [] := by
  constructor
  · intro h
    by_contra hv
    rw [validate_of_ne_nil hv] at h
    cases h
  · exact validate_of_nil

/-- After a check that finds nothing, resolution alone decides. -/
theorem validateAndResolve_of_valid (h : s.violations = []) :
    s.validateAndResolve =
      if s.resolve.2 = [] then .ok s.resolve.1 else .error (s.resolve.2.map .unknownType) := by
  rw [validateAndResolve, validate_of_nil h]
  obtain ⟨resolved, unresolved⟩ := s.resolve
  cases unresolved <;> rfl

theorem validateAndResolve_of_violations (h : s.violations ≠ []) :
    s.validateAndResolve = .error s.violations := by
  rw [validateAndResolve, validate_of_ne_nil h]
  rfl

theorem checkFilterNames_of_nil (h : s.filterNameViolations = []) :
    s.checkFilterNames = .ok () := by
  rw [checkFilterNames, h]
  rfl

theorem checkFilterNames_of_ne_nil (h : s.filterNameViolations ≠ []) :
    s.checkFilterNames = .error s.filterNameViolations := by
  rw [checkFilterNames, if_neg (by simpa using h)]

theorem checkFilterNames_eq_ok_iff : s.checkFilterNames = .ok () ↔ s.filterNameViolations = [] := by
  constructor
  · intro h
    by_contra hc
    rw [checkFilterNames_of_ne_nil hc] at h
    cases h
  · exact checkFilterNames_of_nil

theorem expandBase_of_violations (h : s.violations ≠ []) :
    s.expandBase = .error (.invalid s.violations) := by
  rw [expandBase, validate_of_ne_nil h]
  rfl

/-- Without violations, base expansion goes on to resolve types. -/
theorem expandBase_of_valid (h : s.violations = []) :
    s.expandBase =
      if s.resolve.2.isEmpty then
        (s.entities.checkFilterNames.mapError .invalid).map fun _ => s.base
      else .error (.reference s.resolve.2) := by
  rw [expandBase, validate_of_nil h]
  cases hr : s.resolve.2.isEmpty <;>
    simp [Except.mapError, hr, bind, Except.bind, throw, throwThe, MonadExceptOf.throw, pure,
      Except.pure]
  cases hc : s.resolve.1.withEntities.checkFilterNames <;>
    simp [entities, base, hc, Except.map]

theorem expandBase_of_clash (hv : s.violations = []) (hr : s.resolve.2 = [])
    (hc : s.entities.filterNameViolations ≠ []) :
    s.expandBase = .error (.invalid s.entities.filterNameViolations) := by
  rw [expandBase_of_valid hv, hr, checkFilterNames_of_ne_nil hc]
  rfl

/-- **When base expansion succeeds, and with what.** -/
theorem expandBase_eq_ok_iff {b : Service} : s.expandBase = .ok b ↔ s.Expandable ∧ b = s.base := by
  constructor
  · intro h
    by_cases hv : s.violations = []
    · rw [expandBase_of_valid hv] at h
      split at h
      · rename_i hr
        by_cases hc : s.entities.filterNameViolations = []
        · rw [checkFilterNames_of_nil hc] at h
          exact ⟨⟨hv, List.isEmpty_iff.mp hr, hc⟩, (Except.ok.inj h).symm⟩
        · rw [checkFilterNames_of_ne_nil hc] at h
          cases h
      · cases h
    · rw [expandBase_of_violations hv] at h
      cases h
  · rintro ⟨h, rfl⟩
    rw [expandBase_of_valid h.valid, h.resolves, checkFilterNames_of_nil h.unclashed]
    rfl

/-! ## Names -/

theorem hasObject_iff {n : String} : s.hasObject n ↔ n ∈ s.objectNames := by
  simp [hasObject, findObject?, objectNames]

theorem hasEnum_iff {n : String} : s.hasEnum n ↔ n ∈ s.enumNames := by
  simp [hasEnum, findEnum?, enumNames]

theorem hasObject_eq (s : Service) (n : String) : s.hasObject n = s.objectNames.contains n := by
  rw [Bool.eq_iff_iff, hasObject_iff, List.contains_iff_mem]

theorem hasEnum_eq (s : Service) (n : String) : s.hasEnum n = s.enumNames.contains n := by
  rw [Bool.eq_iff_iff, hasEnum_iff, List.contains_iff_mem]

/-- The names of a list that are not among those given. -/
def namesBeyond (names : List String) (more : List String) : List String :=
  more.filter fun n => !names.contains n

theorem mem_append_namesBeyond {names more : List String} {n : String} :
    n ∈ names ++ namesBeyond names more ↔ n ∈ names ∨ n ∈ more := by
  simp only [namesBeyond, List.mem_append, List.mem_filter, Bool.not_eq_true',
    List.contains_eq_mem, decide_eq_false_iff_not]
  tauto

theorem nodup_append_namesBeyond {names more : List String} (h : names.Nodup) (hm : more.Nodup) :
    (names ++ namesBeyond names more).Nodup := by
  rw [List.nodup_append]
  refine ⟨h, hm.filter _, ?_⟩
  rintro a ha _ hb rfl
  simp [namesBeyond, ha] at hb

theorem objectNames_withStandardEntities (s : Service) :
    s.withStandardEntities.objectNames =
      s.objectNames ++ namesBeyond s.objectNames Standard.objects := by
  rw [objectNames, withStandardEntities, List.map_append]
  refine congrArg (s.objectNames ++ ·) ?_
  rw [namesBeyond, show Standard.objects = Standard.objectEntities.map (·.name) from rfl,
    List.filter_map]
  simp only [hasObject_eq]
  rfl

theorem enumNames_withStandardEntities (s : Service) :
    s.withStandardEntities.enumNames = s.enumNames ++ namesBeyond s.enumNames Standard.enums := by
  rw [enumNames, withStandardEntities, List.map_append]
  refine congrArg (s.enumNames ++ ·) ?_
  rw [namesBeyond, show Standard.enums = Standard.enumEntities.map (·.name) from rfl,
    List.filter_map]
  simp only [hasEnum_eq]
  rfl

theorem objectNames_withBodyObjects (s : Service) :
    s.withBodyObjects.objectNames =
      s.objectNames ++ namesBeyond s.objectNames s.readableNames := by
  rw [objectNames, withBodyObjects, List.map_append]
  refine congrArg (s.objectNames ++ ·) ?_
  rw [namesBeyond, readableNames, List.filter_map, List.filter_filter, List.map_map]
  simp only [hasObject_eq, Function.comp_def, Bool.and_comm]
  rfl

@[simp] theorem readableNames_withAutoColumns (s : Service) :
    s.withAutoColumns.readableNames = s.readableNames := by
  rw [readableNames, withAutoColumns, List.filter_map, List.map_map]
  rfl

@[simp] theorem readableNames_withStandardEntities (s : Service) :
    s.withStandardEntities.readableNames = s.readableNames := rfl

@[simp] theorem objectNames_withAutoColumns (s : Service) :
    s.withAutoColumns.objectNames = s.objectNames := rfl

theorem objectNames_resolve (s : Service) : s.resolve.1.objectNames = s.objectNames :=
  objectNames_mapTypes _ s

theorem readableNames_resolve (s : Service) : s.resolve.1.readableNames = s.readableNames :=
  readableNames_mapTypes _ s

/-- The entities are those that are expected. -/
theorem mem_objectNames_entities {n : String} :
    n ∈ s.entities.objectNames ↔ n ∈ TypeIndex.expectedOwners s := by
  rw [entities, withEntities, objectNames_withBodyObjects, mem_append_namesBeyond,
    objectNames_withAutoColumns, readableNames_withAutoColumns, objectNames_withStandardEntities,
    mem_append_namesBeyond, readableNames_withStandardEntities, objectNames_resolve,
    readableNames_resolve, mem_expectedOwners, or_assoc]

theorem enumNames_base (s : Service) :
    s.base.enumNames = s.enumNames ++ namesBeyond s.enumNames Standard.enums :=
  enumNames_withStandardEntities s.resolve.1

theorem mem_enumNames_base {n : String} :
    n ∈ s.base.enumNames ↔ n ∈ (TypeIndex.expected s).enums := by
  rw [enumNames_base, mem_append_namesBeyond, mem_expected_enums]

theorem objects_base (s : Service) : s.base.objects = s.entities.objects ++ s.requestErrors := rfl

theorem mem_objectNames_base {n : String} :
    n ∈ s.base.objectNames ↔
      n ∈ s.entities.objectNames ∨ n ∈ s.requestErrors.map (·.name) := by
  rw [objectNames, objects_base, List.map_append, List.mem_append]
  rfl

theorem exists_subject_of_mem_requestErrors {x : Object} (h : x ∈ s.requestErrors) :
    ∃ subject, x.name = Standard.requestErrorName subject := by
  obtain ⟨src, -, rfl⟩ := RequestErrors.exists_source_of_mem h
  exact ⟨src.subject, src.name_shape s.entities.objects⟩

theorem mem_objectNames_base_of_owner {n : String} (h : n ∈ TypeIndex.expectedOwners s) :
    n ∈ s.base.objectNames :=
  mem_objectNames_base.mpr (.inl (mem_objectNames_entities.mpr h))

theorem eq_of_name_eq (h : s.objectNames.Nodup) {x y : Object} (hx : x ∈ s.objects)
    (hy : y ∈ s.objects) (hn : x.name = y.name) : x = y :=
  List.inj_on_of_nodup_map h hx hy hn

/-- The objects of a service with distinct names are found under their names. -/
theorem findObject?_eq_some_iff (h : s.objectNames.Nodup) {n : String} {x : Object} :
    s.findObject? n = some x ↔ x ∈ s.objects ∧ x.name = n :=
  find?_key_eq_some_iff h

theorem nodup_objectNames_entities (hw : s.WellNamed) : s.entities.objectNames.Nodup := by
  have hreadable : s.readableNames.Nodup := hw.resources.sublist (List.filter_sublist.map _)
  rw [entities, withEntities, objectNames_withBodyObjects, objectNames_withAutoColumns,
    readableNames_withAutoColumns, objectNames_withStandardEntities,
    readableNames_withStandardEntities, objectNames_resolve, readableNames_resolve]
  exact nodup_append_namesBeyond (nodup_append_namesBeyond hw.objects (by decide)) hreadable

/-- The objects of the outcome have distinct names. -/
theorem nodup_objectNames_base (hw : s.WellNamed) : s.base.objectNames.Nodup := by
  rw [objectNames, objects_base, List.map_append, List.nodup_append]
  refine ⟨nodup_objectNames_entities hw, RequestErrors.nodup_names_ofEndpoints _ _, ?_⟩
  rintro a ha _ hb rfl
  exact RequestErrors.name_notMem_known hb ha

theorem mem_endpoints {re : Resource × Endpoint} :
    re ∈ s.endpoints ↔ re.1 ∈ s.resources ∧ re.2 ∈ re.1.endpoints := by
  obtain ⟨r, e⟩ := re
  simp [endpoints]

theorem resources_base (s : Service) :
    s.base.resources =
      s.resolve.1.resources.map fun r => r.withAutoColumns.withStandardEndpoints := by
  change (s.resolve.1.resources.map _).map _ = _
  rw [List.map_map]
  rfl

theorem readableNames_base (s : Service) : s.base.readableNames = s.readableNames := by
  rw [readableNames, resources_base, List.filter_map, List.map_map]
  exact readableNames_resolve s

/-- What is expected of a service is expected of its base expansion. -/
theorem expected_sub_expected_base (s : Service) :
    (TypeIndex.expected s).Sub (TypeIndex.expected s.base) := by
  have howners : ∀ n ∈ TypeIndex.expectedOwners s, n ∈ TypeIndex.expectedOwners s.base :=
    fun n hn => mem_expectedOwners.mpr (.inl (mem_objectNames_base_of_owner hn))
  refine ⟨fun n hn => ?_, fun n hn => ?_⟩
  · rcases mem_expected_objects.mp hn with hn | ⟨x, hx, hn⟩
    · exact mem_expected_objects.mpr (.inl (howners n hn))
    · exact mem_expected_objects.mpr (.inr ⟨x, howners x hx, hn⟩)
  · exact mem_expected_enums.mpr (.inl (mem_enumNames_base.mpr hn))

end Service

/-! ## Types -/

/-- An index that has the standard names, and the names of the bodies of a service with those of
their filters: what the steps of expansion refer to. -/
structure TypeIndex.Covers (i : TypeIndex) (s : Service) : Prop where
  enums : ∀ n ∈ Standard.enums, n ∈ i.enums
  objects : ∀ n ∈ Standard.objects, n ∈ i.objects
  bodies : ∀ n ∈ s.readableNames, n ∈ i.objects
  filters : ∀ n ∈ s.readableNames, Standard.filterName n ∈ i.objects

theorem TypeIndex.expected_covers (s : Service) : (TypeIndex.expected s).Covers s where
  enums _ hn := Service.mem_expected_enums.mpr (.inr hn)
  objects _ hn := Service.mem_expected_objects.mpr (.inl (Service.mem_expectedOwners.mpr
    (.inr (.inl hn))))
  bodies _ hn := Service.mem_expected_objects.mpr (.inl (Service.mem_expectedOwners.mpr
    (.inr (.inr hn))))
  filters n hn := Service.mem_expected_objects.mpr (.inr ⟨n, Service.mem_expectedOwners.mpr
    (.inr (.inr hn)), List.mem_cons_self ..⟩)

theorem TypeIndex.Covers.mono {i j : TypeIndex} {s : Service} (h : i.Covers s) (hij : i.Sub j) :
    j.Covers s where
  enums n hn := hij.enums n (h.enums n hn)
  objects n hn := hij.objects n (h.objects n hn)
  bodies n hn := hij.objects n (h.bodies n hn)
  filters n hn := hij.objects _ (h.filters n hn)

/-- The types of standard objects. -/
theorem Standard.type_of_mem_objectEntities :
    ∀ o ∈ objectEntities, ∀ f ∈ o.fields,
      f.type.primitive?.isSome ∨ f.type = .enum errorCode ∨ f.type = .enum errorFieldCode := by
  decide

theorem TypeIndex.settles_of_primitive {i : TypeIndex} {t : TypeRef} (h : t.primitive?.isSome) :
    i.Settles t := by
  cases t with
  | primitive p => exact settles_primitive p
  | _ => cases h

theorem Resource.eq_of_mem_missingColumns {r : Resource} {c : ResourceField}
    (h : c ∈ r.missingColumns) : c = r.idColumn ∨ c = r.auditColumn := by
  rw [missingColumns] at h
  split at h
  · cases h
  · simpa using (List.mem_filter.mp h).1

theorem Resource.mem_fieldsWith {r : Resource} {op : Operation} {f : Field}
    (h : f ∈ r.fieldsWith op) : ∃ c ∈ r.fields, c.field = f := by
  obtain ⟨c, hc, rfl⟩ := List.mem_map.mp h
  exact ⟨c, (List.mem_filter.mp hc).1, rfl⟩

theorem Endpoint.fields_withErrorResponses (e : Endpoint) :
    e.withErrorResponses.fields = e.fields := rfl

namespace Service.Settled

variable {s : Service} {i : TypeIndex}

theorem withStandardEntities (h : s.Settled i) (hi : i.Covers s) :
    s.withStandardEntities.Settled i where
  objects o ho f hf := by
    rcases List.mem_append.mp ho with ho | ho
    · exact h.objects o ho f hf
    · rcases Standard.type_of_mem_objectEntities o (List.mem_filter.mp ho).1 f hf with hp | hc | hc
      · exact TypeIndex.settles_of_primitive hp
      · rw [hc, TypeIndex.settles_enum]
        exact hi.enums _ (by decide)
      · rw [hc, TypeIndex.settles_enum]
        exact hi.enums _ (by decide)
  columns := h.columns
  endpoints := h.endpoints

theorem withAutoColumns (h : s.Settled i) (hi : i.Covers s) : s.withAutoColumns.Settled i where
  objects := h.objects
  columns x hx c hc := by
    obtain ⟨r, hr, rfl⟩ := List.mem_map.mp hx
    rcases List.mem_append.mp hc with hc | hc
    · rcases Resource.eq_of_mem_missingColumns hc with rfl | rfl
      · rfl
      · exact TypeIndex.settles_object.mpr (hi.objects Standard.audit (by decide))
    · exact h.columns r hr c hc
  endpoints x hx e he := by
    obtain ⟨r, hr, rfl⟩ := List.mem_map.mp hx
    exact h.endpoints r hr e he

theorem withBodyObjects (h : s.Settled i) : s.withBodyObjects.Settled i where
  objects o ho f hf := by
    rcases List.mem_append.mp ho with ho | ho
    · exact h.objects o ho f hf
    · obtain ⟨r, hr, rfl⟩ := List.mem_map.mp ho
      obtain ⟨c, hc, rfl⟩ := Resource.mem_fieldsWith hf
      exact h.columns r (List.mem_filter.mp hr).1 c hc
  columns := h.columns
  endpoints := h.endpoints

/-- The types of a standard endpoint are those of fields of the resource, and names that the index
covers. -/
theorem build (h : s.Settled i) (hi : i.Covers s) {r : Resource} (hr : r ∈ s.resources)
    {k : StandardEndpoint} (hk : r.allows k.operation) {f : Field} (hf : f ∈ (k.build r).fields) :
    i.Settles f.type := by
  have hpage := hi.objects Standard.pagination (by decide)
  have hbody : r.allows .read → r.name ∈ i.objects := fun ha =>
    hi.bodies _ (mem_readableNames.mpr ⟨r, hr, ha, rfl⟩)
  have hfilter : r.allows .read → Standard.filterName r.name ∈ i.objects := fun ha =>
    hi.filters _ (mem_readableNames.mpr ⟨r, hr, ha, rfl⟩)
  have hwith : ∀ op, f ∈ r.fieldsWith op → i.Settles f.type := by
    intro op hf
    obtain ⟨c, hc, rfl⟩ := Resource.mem_fieldsWith hf
    exact h.columns r hr c hc
  cases k with
  | create => exact hwith .create (by simpa [Endpoint.fields, StandardEndpoint.build,
      Request.ofBody, Resource.entityResponse, apply_ite, Response.ofObject, Response.empty]
      using hf)
  | get | delete =>
    simp [Endpoint.fields, StandardEndpoint.build, Response.ofObject, Response.empty] at hf
    subst hf
    rfl
  | list =>
    simp [Endpoint.fields, StandardEndpoint.build, StandardEndpoint.pageParams, Response.inline,
      Resource.pageEnvelope] at hf
    rcases hf with rfl | rfl | rfl | rfl
    · rfl
    · rfl
    · exact TypeIndex.settles_object.mpr (hbody hk)
    · exact TypeIndex.settles_object.mpr hpage
  | update =>
    simp [Endpoint.fields, StandardEndpoint.build, Request.ofBody, Resource.entityResponse,
      apply_ite, Response.ofObject, Response.empty] at hf
    rcases hf with rfl | hf
    · rfl
    · exact hwith .update hf
  | search =>
    simp [Endpoint.fields, StandardEndpoint.build, Request.ofBody, StandardEndpoint.filterParam,
      Response.inline, Resource.pageEnvelope] at hf
    rcases hf with rfl | rfl | rfl
    · exact TypeIndex.settles_object.mpr (hfilter hk)
    · exact TypeIndex.settles_object.mpr (hbody hk)
    · exact TypeIndex.settles_object.mpr hpage

theorem withStandardEndpoints (h : s.Settled i) (hi : i.Covers s) :
    s.withStandardEndpoints.Settled i where
  objects := h.objects
  columns x hx c hc := by
    obtain ⟨r, hr, rfl⟩ := List.mem_map.mp hx
    exact h.columns r hr c hc
  endpoints x hx y hy f hf := by
    obtain ⟨r, hr, rfl⟩ := List.mem_map.mp hx
    obtain ⟨e, he, rfl⟩ := List.mem_map.mp hy
    rw [Endpoint.fields_withErrorResponses] at hf
    rcases List.mem_append.mp he with he | he
    · obtain ⟨k, hk, rfl⟩ := List.mem_map.mp he
      have ha := (List.mem_filter.mp hk).2
      rw [Bool.and_eq_true] at ha
      exact h.build hi hr ha.1 hf
    · exact h.endpoints r hr e he f hf

/-- Error objects refer to objects of the service they are added to. -/
theorem withRequestErrors (h : s.Settled i) (hi : i.Covers s)
    (hn : ∀ n ∈ s.withRequestErrors.objectNames, n ∈ i.objects) :
    s.withRequestErrors.Settled i where
  objects o ho f hf := by
    rcases List.mem_append.mp ho with ho | ho
    · exact h.objects o ho f hf
    · rcases RequestErrors.ofEndpoints_closed ho hf with hfn | ⟨x, -, hfn, hn'⟩
      · rw [hfn, TypeIndex.settles_object]
        exact hi.objects _ (by decide)
      · rw [hfn, TypeIndex.settles_object]
        rw [objectNames, Service.withRequestErrors, List.map_append] at hn
        exact hn _ (List.mem_append.mpr hn')
  columns := h.columns
  endpoints := h.endpoints

end Service.Settled

namespace Service

variable {s : Service} {i : TypeIndex}

/-- **The outcome of the base expansion is settled** for every index that has its names and those
expected of the service. -/
theorem settled_base (hr : s.resolve.2 = []) (hi : (TypeIndex.expected s).Sub i)
    (hn : ∀ n ∈ s.base.objectNames, n ∈ i.objects) : s.base.Settled i := by
  have hc : i.Covers s.resolve.1 := by
    have hcov := (TypeIndex.expected_covers s).mono hi
    exact ⟨hcov.enums, hcov.objects, by rw [readableNames_resolve]; exact hcov.bodies,
      by rw [readableNames_resolve]; exact hcov.filters⟩
  -- each step keeps the types settled, and the readable names as they are
  have hresolved : s.resolve.1.Settled i := (settled_resolveWith hr).mono hi
  have hstandard := hresolved.withStandardEntities hc
  have hcolumns := hstandard.withAutoColumns ⟨hc.enums, hc.objects, hc.bodies, hc.filters⟩
  have hentities : s.entities.Settled i := hcolumns.withBodyObjects
  have hce : i.Covers s.entities := by
    have heq : s.entities.readableNames = s.resolve.1.readableNames :=
      readableNames_withAutoColumns s.resolve.1.withStandardEntities
    exact ⟨hc.enums, hc.objects, heq ▸ hc.bodies, heq ▸ hc.filters⟩
  have hendpoints := hentities.withStandardEndpoints hce
  have heq : s.entities.withStandardEndpoints.readableNames = s.entities.readableNames := by
    rw [readableNames, Service.withStandardEndpoints, List.filter_map, List.map_map]
    rfl
  exact hendpoints.withRequestErrors ⟨hc.enums, hc.objects, heq ▸ hce.bodies, heq ▸ hce.filters⟩ hn

/-! ## A service to expand -/

/-- A service with one resource, which can be read and created. -/
def bookshop : Service where
  name := "Bookshop"
  resources :=
    [{ name := "Book"
       operations := [.create, .read]
       fields :=
         [{ field := { name := "Title", type := .primitive .string }
            operations := [.create, .read] }] }]

theorem bookshop_expandable : bookshop.Expandable where
  valid := by decide +kernel
  resolves := by decide +kernel
  unclashed := by decide +kernel

theorem bookshop_expandBase : bookshop.expandBase = .ok bookshop.base :=
  expandBase_eq_ok_iff.mpr ⟨bookshop_expandable, rfl⟩

end Service

end ServiceSpec
