import ServiceSpec.Proofs.BodyErrors
import ServiceSpec.Proofs.UniqueNames

/-!
# Names of fields

The fields of an expanded object have their names from somewhere: from a declared object, from the
columns of a resource, or from the body of an endpoint.  Filters keep some of the names of their
object, and error objects keep all names of what they are made for.  So what is to be said of the
names in every object need only be said of these three sources, if it passes from a list of names to
a part of it.

Validation looks at two of the sources.  It refuses objects and resources with fields whose names
are blank or repeated, and it does not look into the bodies of endpoints.  An error object that is
made for the body of a declared endpoint has the names of its parameters, whatever they are.

## Main definitions

* `Hereditary`: a property of names that passes from the fields of an object to what is derived
* `Service.SourceNames`: the property holds of the names in all sources of a service
* `ProperNames`: names that are given and distinct
* `Service.HasErrorObject`: an error object is made for the body of an endpoint

## Main results

* `forall_fieldNames_expand_iff`: a hereditary property holds of all objects of an expanded service
  if and only if it holds of the sources
* `properNames_expand_iff`: when the names in all objects of an expanded service are proper
-/

namespace ServiceSpec

/-! ## Hereditary properties -/

/-- A property of the names of fields that sublists keep, and that standard objects and combining
filters have. -/
structure Hereditary (P : List String → Prop) : Prop where
  sublist : ∀ {a b : List String}, a.Sublist b → P b → P a
  standard : ∀ o ∈ Standard.objectEntities, P o.fieldNames
  combined : P (combinedFilter "").fieldNames

variable {P : List String → Prop}

/-- Filters have part of the names of their object, or those of a combining filter. -/
theorem Hereditary.filters (hP : Hereditary P) {o f : Object} (h : P o.fieldNames)
    (hf : f ∈ o.filters) : P f.fieldNames := by
  rcases List.mem_cons.mp hf with rfl | hf
  · exact hP.combined
  · obtain ⟨k, -, rfl⟩ := List.mem_map.mp hf
    rw [k.fieldNames_build]
    exact hP.sublist (List.filter_sublist.map _) h

theorem ErrorSource.fieldNames_shape (known : List Object) (src : ErrorSource) :
    (src.shape known).fieldNames = src.body.map (·.name) := by
  rw [Object.fieldNames, fields_shape, Field.names_errorShapes]

theorem Object.fieldNames_settledBy (i : TypeIndex) (o : Object) :
    (o.settledBy i).fieldNames = o.fieldNames :=
  List.map_map

/-- Resolution keeps the names of the columns that take part in an operation. -/
theorem Resource.names_fieldsWith_completed (i : TypeIndex) (r : Resource) (op : Operation) :
    ((r.completed i).fieldsWith op).map (·.name) =
      (r.withAutoColumns.fieldsWith op).map (·.name) := by
  rw [fieldsWith, fieldsWith, completed, withAutoColumns]
  simp only [List.filter_append, List.filter_map, List.map_append, List.map_map]
  rfl

/-! ## Sources of names -/

namespace Service

variable {s e : Service}

/-- The property holds of the names in declared objects, of those of the readable columns of
resources that have an object made for them, and of those in the bodies of requests that have an
error object made for them. -/
structure SourceNames (s : Service) (P : List String → Prop) : Prop where
  objects : ∀ o ∈ s.objects, P o.fieldNames
  bodies : ∀ r ∈ s.resources, s.LacksBody r → P ((r.withAutoColumns.fieldsWith .read).map (·.name))
  requests : ∀ re ∈ s.base.endpoints, re.2.errorShape s.entities.objects re.1 ∈ s.requestErrors →
    P (re.2.request.bodyParams.map (·.name))

theorem forall_fieldNames_entities_iff (hP : Hereditary P) :
    (∀ x ∈ s.entities.objects, P x.fieldNames) ↔
      (∀ o ∈ s.objects, P o.fieldNames) ∧
        ∀ r ∈ s.resources, s.LacksBody r →
          P ((r.withAutoColumns.fieldsWith .read).map (·.name)) := by
  have hstandard : ∀ o ∈ Standard.objectEntities.filter (·.name ∉ s.objectNames),
      P o.fieldNames := fun o ho => hP.standard o (List.mem_filter.mp ho).1
  have hbody : ∀ r : Resource, ((r.completed (.expected s)).bodyObject).fieldNames =
      (r.withAutoColumns.fieldsWith .read).map (·.name) := fun r =>
    r.names_fieldsWith_completed (.expected s) .read
  rw [objects_entities, completedObjects, List.forall_mem_append, List.forall_mem_append,
    and_iff_left hstandard, List.forall_mem_map, List.forall_mem_map]
  simp only [Object.fieldNames_settledBy, hbody, List.mem_filter, decide_eq_true_iff, and_imp]

/-- Filters aside, the objects of the outcome are entities and error objects. -/
theorem forall_fieldNames_base_iff :
    (∀ x ∈ s.base.objects, P x.fieldNames) ↔
      (∀ x ∈ s.entities.objects, P x.fieldNames) ∧
        ∀ re ∈ s.base.endpoints, re.2.errorShape s.entities.objects re.1 ∈ s.requestErrors →
          P (re.2.request.bodyParams.map (·.name)) := by
  rw [objects_base, List.forall_mem_append]
  refine and_congr_right fun hentities => ⟨fun h re _ hmem => ?_, fun h x hx => ?_⟩
  · have hnames : (re.2.errorShape s.entities.objects re.1).fieldNames =
        re.2.request.bodyParams.map (·.name) := Endpoint.mirrors_errorShape _ re.1 re.2
    rw [← hnames]
    exact h _ hmem
  · obtain ⟨src, hsrc, rfl⟩ := RequestErrors.exists_source_of_mem hx
    rw [ErrorSource.fieldNames_shape]
    rcases hsrc with ⟨o, ho, rfl⟩ | ⟨re, hre, -, rfl⟩
    · exact hentities o ho
    · exact h re hre hx

/-- **A hereditary property holds of all objects of an expanded service if and only if it holds of
the sources.** -/
theorem forall_fieldNames_expand_iff (hP : Hereditary P) (h : s.expand = .ok e) :
    (∀ x ∈ e.objects, P x.fieldNames) ↔ s.SourceNames P := by
  obtain ⟨-, -, rfl⟩ := expand_eq_ok_iff.mp h
  have hfilters : (∀ x ∈ s.base.withFilters.objects, P x.fieldNames) ↔
      ∀ x ∈ s.base.objects, P x.fieldNames := by
    rw [withFilters, List.forall_mem_append]
    refine and_iff_left_of_imp fun hbase x hx => ?_
    obtain ⟨o, ho, hxo⟩ := exists_owner_of_mem_missingFilters hx
    exact hP.filters (hbase o (mem_of_mem_filterOwners ho)) hxo
  rw [hfilters, forall_fieldNames_base_iff, forall_fieldNames_entities_iff hP, and_assoc]
  constructor
  · rintro ⟨hobjects, hbodies, hrequests⟩
    exact ⟨hobjects, hbodies, hrequests⟩
  · intro h
    exact ⟨h.objects, h.bodies, h.requests⟩

end Service

/-! ## Bodies of endpoints -/

/-- The body of a standard endpoint has columns of the resource, or one field at most. -/
theorem StandardEndpoint.bodyParams_build (r : Resource) (k : StandardEndpoint) :
    (∃ op, (k.build r).request.bodyParams = r.fieldsWith op) ∨
      (k.build r).request.bodyParams.Sublist [filterParam r] := by
  cases k with
  | create => exact .inl ⟨.create, rfl⟩
  | update => exact .inl ⟨.update, rfl⟩
  | get | list | delete => exact .inr (List.nil_sublist _)
  | search => exact .inr (List.Sublist.refl _)

/-- The names in the body of an endpoint of the base expansion are those of columns of a resource,
or the endpoint is declared, or a filter is all that its body may have. -/
theorem Service.names_bodyParams_base {s : Service} {re : Resource × Endpoint}
    (h : re ∈ s.base.endpoints) :
    ∃ r ∈ s.resources,
      (∃ op, re.2.request.bodyParams.map (·.name) =
        (r.withAutoColumns.fieldsWith op).map (·.name)) ∨
      (∃ d ∈ r.endpoints, re = (r.completed (.expected s), d.completed (.expected s))) ∨
      (re.2.request.bodyParams.map (·.name)).Sublist ["filter"] := by
  obtain ⟨x, e⟩ := re
  obtain ⟨r, hr, rfl, he⟩ := mem_endpoints_base.mp h
  refine ⟨r, hr, ?_⟩
  rcases Resource.mem_endpoints_completed.mp he with ⟨k, -, rfl⟩ | ⟨d, hd, rfl⟩
  · rcases k.bodyParams_build (r.completed (.expected s)) with ⟨op, hop⟩ | hone
    · exact .inl ⟨op, (congrArg (List.map (·.name)) hop).trans
        (r.names_fieldsWith_completed (.expected s) op)⟩
    · exact .inr (.inr (hone.map (·.name)))
  · exact .inr (.inl ⟨d, hd, rfl⟩)

/-! ## Proper names -/

/-- Names that are given, and distinct. -/
structure ProperNames (names : List String) : Prop where
  given : ∀ n ∈ names, ¬ Text.isBlank n
  distinct : names.Nodup

instance (names : List String) : Decidable (ProperNames names) :=
  decidable_of_iff ((∀ n ∈ names, ¬ Text.isBlank n) ∧ names.Nodup)
    ⟨fun h => ⟨h.1, h.2⟩, fun h => ⟨h.given, h.distinct⟩⟩

theorem ProperNames.sublist {a b : List String} (hs : a.Sublist b) (h : ProperNames b) :
    ProperNames a where
  given n hn := h.given n (hs.subset hn)
  distinct := h.distinct.sublist hs

/-- **Validation accepts an object if its name is given and those of its fields are proper.** -/
theorem Object.violations_eq_nil_iff {o : Object} :
    o.violations = [] ↔ ¬ Text.isBlank o.name ∧ ProperNames o.fieldNames := by
  simp only [violations, List.append_eq_nil_iff, List.map_eq_nil_iff, List.filter_eq_nil_iff,
    duplicates_eq_nil_iff, and_assoc]
  refine and_congr (by simp) ⟨fun h => ⟨?_, h.2⟩, fun h => ⟨fun f hf => ?_, h.distinct⟩⟩
  · rw [fieldNames, List.forall_mem_map]
    exact h.1
  · exact h.given f.name (List.mem_map_of_mem hf)

namespace Resource

variable {r : Resource}

theorem isBlank_of_fieldViolations {c : ResourceField} (h : r.fieldViolations c = []) :
    ¬ Text.isBlank c.name := by
  rw [fieldViolations, List.append_eq_nil_iff] at h
  simpa using h.1

/-- The columns of a resource without violations have proper names. -/
theorem properNames_of_violations (h : r.violations = []) :
    ProperNames (r.fields.map (·.name)) where
  given := by
    simp only [violations, List.append_eq_nil_iff, List.flatMap_eq_nil_iff] at h
    rw [List.forall_mem_map]
    exact fun c hc => isBlank_of_fieldViolations (h.1.1.1.2 c hc)
  distinct := (wellFormed_of_violations h).fields

/-- The implicit columns keep the names proper. -/
theorem properNames_withAutoColumns (h : ProperNames (r.fields.map (·.name))) :
    ProperNames (r.withAutoColumns.fields.map (·.name)) where
  given := by
    have himplicit : ∀ n ∈ [Standard.idField, Standard.auditField], ¬ Text.isBlank n := by decide
    rw [withAutoColumns, List.map_append, List.forall_mem_append]
    refine ⟨List.forall_mem_map.mpr fun c hc => ?_, h.given⟩
    rcases eq_of_mem_missingColumns hc with rfl | rfl
    · exact himplicit _ (by simp [idColumn, idParam, ResourceField.name])
    · exact himplicit _ (by simp [auditColumn, ResourceField.name])
  distinct := nodup_names_withMissingColumns h.distinct

theorem names_fieldsWith_sublist (r : Resource) (op : Operation) :
    ((r.fieldsWith op).map (·.name)).Sublist (r.fields.map (·.name)) := by
  rw [fieldsWith, List.map_map]
  exact List.filter_sublist.map _

end Resource

theorem hereditary_properNames : Hereditary ProperNames where
  sublist := ProperNames.sublist
  standard := by decide +kernel
  combined := by decide +kernel

namespace Service

variable {s e : Service}

/-- An error object is made for the body of an endpoint of the resource, as it is declared. -/
def HasErrorObject (s : Service) (r : Resource) (d : Endpoint) : Prop :=
  (d.completed (.expected s)).errorShape s.entities.objects r ∈ s.requestErrors

/-- The names are part of those in the body of a declared endpoint that has an error object. -/
def FromDeclaredBody (s : Service) (names : List String) : Prop :=
  ∃ r ∈ s.resources, ∃ d ∈ r.endpoints, s.HasErrorObject r d ∧
    names.Sublist (d.request.bodyParams.map (·.name))

/-- **What validation leaves open**: in all sources but the bodies of declared endpoints, the names
are proper. -/
theorem properNames_or_fromDeclaredBody (hv : s.violations = []) :
    s.SourceNames fun names => ProperNames names ∨ s.FromDeclaredBody names := by
  obtain ⟨-, hobjects, hresources, -⟩ := violations_eq_nil_iff.mp hv
  have hcolumns : ∀ r ∈ s.resources, ∀ op,
      ProperNames ((r.withAutoColumns.fieldsWith op).map (·.name)) := fun r hr op =>
    (Resource.properNames_withAutoColumns (Resource.properNames_of_violations
      (hresources r hr))).sublist (r.withAutoColumns.names_fieldsWith_sublist op)
  refine ⟨fun o ho => .inl ?_, fun r hr _ => .inl (hcolumns r hr .read), fun re hre herror => ?_⟩
  · exact (Object.violations_eq_nil_iff.mp (hobjects o ho)).2
  · obtain ⟨r, hr, ⟨op, hop⟩ | ⟨d, hd, rfl⟩ | hone⟩ := names_bodyParams_base hre
    · rw [hop]
      exact .inl (hcolumns r hr op)
    · refine .inr ⟨r, hr, d, hd, herror, ?_⟩
      rw [d.names_bodyParams_completed]
    · have hfilter : ProperNames ["filter"] := by decide
      exact .inl (hfilter.sublist hone)

/-- **When the names in all objects of an expanded service are proper**: when those in the body of
each declared endpoint are that has an error object made for it.  Every object in which they are
not has part of the names of such a body. -/
theorem properNames_expand_iff (h : s.expand = .ok e) :
    ((∀ x ∈ e.objects, ProperNames x.fieldNames) ↔
      ∀ r ∈ s.resources, ∀ d ∈ r.endpoints, s.HasErrorObject r d →
        ProperNames (d.request.bodyParams.map (·.name))) ∧
    ∀ x ∈ e.objects, ¬ ProperNames x.fieldNames → s.FromDeclaredBody x.fieldNames := by
  have hs := (expand_eq_ok_iff.mp h).1
  have hheir : Hereditary fun names => ProperNames names ∨ s.FromDeclaredBody names :=
    { sublist := fun hab => Or.imp (ProperNames.sublist hab) fun ⟨r, hr, d, hd, herror, hb⟩ =>
        ⟨r, hr, d, hd, herror, hab.trans hb⟩
      standard := fun o ho => .inl (hereditary_properNames.standard o ho)
      combined := .inl hereditary_properNames.combined }
  -- what is not proper comes from a declared body, and this too is hereditary
  have hall : ∀ x ∈ e.objects, ProperNames x.fieldNames ∨ s.FromDeclaredBody x.fieldNames :=
    (forall_fieldNames_expand_iff hheir h).mpr (properNames_or_fromDeclaredBody hs.valid)
  refine ⟨⟨fun hproper r hr d hd herror => ?_, fun hbodies x hx => ?_⟩, fun x hx hnot => ?_⟩
  · have hsources := (forall_fieldNames_expand_iff hereditary_properNames h).mp hproper
    have hmem : (r.completed (.expected s), d.completed (.expected s)) ∈ s.base.endpoints :=
      mem_endpoints_base.mpr ⟨r, hr, rfl, Resource.mem_endpoints_completed.mpr
        (.inr ⟨d, hd, rfl⟩)⟩
    have hnames := hsources.requests _ hmem herror
    rwa [d.names_bodyParams_completed] at hnames
  · rcases hall x hx with hx | ⟨r, hr, d, hd, herror, hsub⟩
    · exact hx
    · exact (hbodies r hr d hd herror).sublist hsub
  · exact (hall x hx).resolve_left hnot

theorem properNames_expand_lending :
    lending.expand = .ok lending.base.withFilters ∧
      (∃ r ∈ lending.resources, ∃ d ∈ r.endpoints, d.hasBody) ∧
      ∀ x ∈ lending.base.withFilters.objects, ProperNames x.fieldNames := by
  have hbodies : ∀ r ∈ lending.resources, ∀ d ∈ r.endpoints,
      ProperNames (d.request.bodyParams.map (·.name)) := by decide +kernel
  exact ⟨lending_expand, by decide +kernel, (properNames_expand_iff lending_expand).1.mpr
    fun r hr d hd _ => hbodies r hr d hd⟩

/-- A service with an endpoint whose body has two parameters of one name. -/
def helpdesk : Service where
  name := "Helpdesk"
  version := "1.0"
  resources :=
    [{ name := "Ticket"
       endpoints :=
         [{ name := "Merge"
            method := .post
            path := "/merge"
            request := .ofBody
              [{ name := "target", type := .primitive .uuid },
               { name := "target", type := .primitive .uuid }] }]
       skipAutoColumns := true }]

/-- The error object of the endpoint has two fields of one name, and the outcome does not pass the
validation that the service passed. -/
theorem helpdesk_fields_repeated :
    helpdesk.violations = [] ∧ helpdesk.expand = .ok helpdesk.base.withFilters ∧
      (∃ x ∈ helpdesk.base.withFilters.objects, x.name = "TicketMergeRequestError" ∧
        x.fieldNames = ["target", "target"] ∧ ¬ ProperNames x.fieldNames) ∧
      helpdesk.base.withFilters.violations ≠ [] := by
  have hs : helpdesk.Expandable := ⟨by decide +kernel, by decide +kernel, by decide +kernel⟩
  exact ⟨hs.valid, expand_eq_ok_iff.mpr ⟨hs, by decide +kernel, rfl⟩, by decide +kernel,
    by decide +kernel⟩

end Service

end ServiceSpec
