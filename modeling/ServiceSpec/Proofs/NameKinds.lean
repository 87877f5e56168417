import ServiceSpec.OpenApi
import ServiceSpec.Proofs.FullExpansion
import ServiceSpec.Proofs.Validation

/-!
# Names that stand for an object and an enum

A valid service has no name that stands for both an object and an enum.  Expansion does not keep it
that way.  It checks the names of what it adds within each kind only, so that an object can be made
under the name of a declared enum, and a standard enum under the name of a declared object.  The
outcome then breaks the rule that the service itself was checked for: it is refused if it is
expanded again, and it has no document.

This module says for which services that happens.  The names that can clash are those of declared
enums with the objects that are made, and those of the two standard enums with declared objects and
with bodies of resources.  Standard enums never clash with error objects or filters, since their
names end in no derived suffix.

## Main definitions

* `Service.KindsApart`: no name that expansion makes stands for another kind already

## Main results

* `openApi_eq_ok_iff`: a service has a document if and only if its names are apart
* `apart_expand_iff`: the names of an expanded service are apart exactly where this was so before
-/

namespace ServiceSpec

namespace Service

variable {s e : Service} {n : String}

/-! ## Documents -/

theorem nameCollision?_eq_none_iff :
    s.nameCollision? = none ↔ ∀ n ∈ s.objectNames, n ∉ s.enumNames := by
  simp only [nameCollision?, List.find?_eq_none, hasEnum_iff]

/-- **A service has a document if and only if no object and enum of it share a name.** -/
theorem openApi_eq_ok_iff :
    s.openApi = .ok s.openApiDocument ↔ ∀ n ∈ s.objectNames, n ∉ s.enumNames := by
  rw [← nameCollision?_eq_none_iff, openApi]
  cases s.nameCollision? <;> simp

theorem eq_openApiDocument_of_openApi {doc : Document} (h : s.openApi = .ok doc) :
    doc = s.openApiDocument := by
  rw [openApi] at h
  split at h
  · cases h
  · exact (Except.ok.inj h).symm

/-- Without a document, the error is a shared name. -/
theorem exists_openApi_eq_error (h : ¬ ∀ n ∈ s.objectNames, n ∉ s.enumNames) :
    ∃ n ∈ s.objectNames, n ∈ s.enumNames ∧ s.openApi = .error n := by
  rw [← nameCollision?_eq_none_iff] at h
  obtain ⟨n, hn⟩ := Option.ne_none_iff_exists'.mp h
  refine ⟨n, List.mem_of_find?_eq_some hn, hasEnum_iff.mp (List.find?_some hn), ?_⟩
  rw [openApi, hn]

theorem bookshop_openApi :
    bookshop.base.withFilters.openApi = .ok bookshop.base.withFilters.openApiDocument :=
  openApi_eq_ok_iff.mpr (by decide +kernel)

/-! ## Names that expansion makes -/

/-- Standard enums are named like no error object. -/
theorem standardEnum_ne_requestError (hn : n ∈ Standard.enums) {x : Object}
    (hx : x ∈ s.requestErrors) : n ≠ x.name := by
  obtain ⟨subject, heq⟩ := exists_subject_of_mem_requestErrors hx
  rw [heq]
  exact Standard.ne_append_derivedSuffix (List.mem_append_left _ hn) (List.mem_cons_self ..)

/-- The names of the objects of an expanded service. -/
theorem mem_objectNames_withFilters_base :
    n ∈ s.base.withFilters.objectNames ↔
      (n ∈ s.objectNames ∨ n ∈ Standard.objects ∨ n ∈ s.readableNames) ∨
        (∃ x ∈ s.requestErrors, x.name = n) ∨
          ∃ o ∈ s.base.filterOwners, n ∈ Standard.filterNames o.name := by
  rw [mem_objectNames_withFilters, mem_objectNames_base, mem_objectNames_entities,
    mem_expectedOwners, List.mem_map, or_assoc]

/-- No name that expansion makes stands for another kind already: declared enums are named unlike
the objects that are made, and standard enums unlike declared objects and bodies of resources. -/
structure KindsApart (s : Service) : Prop where
  objects : ∀ n ∈ s.enumNames, n ∉ Standard.objects
  bodies : ∀ n ∈ s.enumNames, n ∉ s.readableNames
  requestErrors : ∀ n ∈ s.enumNames, ∀ x ∈ s.requestErrors, x.name ≠ n
  filters : ∀ n ∈ s.enumNames, ∀ o ∈ s.base.filterOwners, n ∉ Standard.filterNames o.name
  enums : ∀ n ∈ Standard.enums, n ∉ s.objectNames ∧ n ∉ s.readableNames

/-- A declared enum of a valid service clashes with objects that are made only. -/
theorem declaredEnum_notMem_iff (hw : s.WellNamed) (hn : n ∈ s.enumNames) :
    n ∉ s.base.withFilters.objectNames ↔
      n ∉ Standard.objects ∧ n ∉ s.readableNames ∧ (∀ x ∈ s.requestErrors, x.name ≠ n) ∧
        ∀ o ∈ s.base.filterOwners, n ∉ Standard.filterNames o.name := by
  rw [mem_objectNames_withFilters_base]
  have hdeclared := hw.apart n hn
  simp [hdeclared, not_or, and_assoc]

/-- A standard enum clashes with declared objects and bodies of resources only. -/
theorem standardEnum_notMem_iff (hn : n ∈ Standard.enums) :
    n ∉ s.base.withFilters.objectNames ↔ n ∉ s.objectNames ∧ n ∉ s.readableNames := by
  have hobjects : ∀ n ∈ Standard.enums, n ∉ Standard.objects := by decide
  rw [mem_objectNames_withFilters_base]
  constructor
  · intro h
    exact ⟨fun ho => h (.inl (.inl ho)), fun hr => h (.inl (.inr (.inr hr)))⟩
  · -- one case for each step of expansion that makes objects
    rintro ⟨ho, hr⟩ ((hd | hs | hb) | ⟨x, hx, heq⟩ | ⟨o, -, hf⟩)
    · exact ho hd
    · exact hobjects n hn hs
    · exact hr hb
    · exact standardEnum_ne_requestError hn hx heq.symm
    · exact Standard.notMem_filterNames (List.mem_append_left _ hn) o.name hf

/-- The names of the outcome are apart if nothing clashes with a declared or a standard enum. -/
theorem apart_withFilters_base_iff (hw : s.WellNamed) :
    (∀ n ∈ s.base.withFilters.objectNames, n ∉ s.base.withFilters.enumNames) ↔ s.KindsApart := by
  have henums : ∀ n, n ∈ s.base.withFilters.enumNames ↔ n ∈ s.enumNames ∨ n ∈ Standard.enums :=
    fun n => mem_enumNames_base.trans mem_expected_enums
  constructor
  · intro ha
    have hdeclared := fun n hn => (declaredEnum_notMem_iff hw hn).mp
      fun ho => ha n ho ((henums n).mpr (.inl hn))
    have hstandard := fun n hn => (standardEnum_notMem_iff hn).mp
      fun ho => ha n ho ((henums n).mpr (.inr hn))
    exact ⟨fun n hn => (hdeclared n hn).1, fun n hn => (hdeclared n hn).2.1,
      fun n hn => (hdeclared n hn).2.2.1, fun n hn => (hdeclared n hn).2.2.2, hstandard⟩
  · intro hk n ho he
    rcases (henums n).mp he with hn | hn
    · exact (declaredEnum_notMem_iff hw hn).mpr ⟨hk.objects n hn, hk.bodies n hn,
        hk.requestErrors n hn, hk.filters n hn⟩ ho
    · exact (standardEnum_notMem_iff hn).mpr (hk.enums n hn) ho

/-- **The names of an expanded service are apart exactly where no name that expansion makes stood
for another kind already**, and then it has a document.  Otherwise a shared name is the error. -/
theorem apart_expand_iff (h : s.expand = .ok e) :
    ((∀ n ∈ e.objectNames, n ∉ e.enumNames) ↔ s.KindsApart) ∧
      (s.KindsApart → e.openApi = .ok e.openApiDocument) ∧
        (¬ s.KindsApart → ∃ n ∈ e.objectNames, n ∈ e.enumNames ∧ e.openApi = .error n) := by
  obtain ⟨hs, -, rfl⟩ := expand_eq_ok_iff.mp h
  have hiff := apart_withFilters_base_iff (wellNamed_of_violations hs.valid)
  refine ⟨hiff, fun hk => openApi_eq_ok_iff.mpr (hiff.mpr hk), fun hk => ?_⟩
  exact exists_openApi_eq_error fun ha => hk (hiff.mp ha)

theorem apart_expand_bookshop :
    bookshop.expand = .ok bookshop.base.withFilters ∧ bookshop.KindsApart ∧
      bookshop.base.withFilters.openApi = .ok bookshop.base.withFilters.openApiDocument := by
  obtain ⟨hiff, hdocument, -⟩ := apart_expand_iff bookshop_expand
  have hk : bookshop.KindsApart := hiff.mp (by decide +kernel)
  exact ⟨bookshop_expand, hk, hdocument hk⟩

/-- A service with an enum that has the name of a standard object. -/
def triage : Service where
  name := "Triage"
  enums := [{ name := "Error", values := [{ name := "Low" }, { name := "High" }] }]

/-- Expansion adds the standard object beside the enum of that name. -/
theorem triage_expand_collides :
    triage.violations = [] ∧ triage.expand = .ok triage.base.withFilters ∧
      "Error" ∈ triage.base.withFilters.objectNames ∧
      "Error" ∈ triage.base.withFilters.enumNames ∧
      triage.base.withFilters.openApi = .error "Error" := by
  have hs : triage.Expandable := ⟨by decide +kernel, by decide +kernel, by decide +kernel⟩
  have he : triage.expand = .ok triage.base.withFilters :=
    expand_eq_ok_iff.mpr ⟨hs, by decide +kernel, rfl⟩
  have ho : triage.base.withFilters.nameCollision? = some "Error" := by decide +kernel
  refine ⟨hs.valid, he, by decide +kernel, by decide +kernel, ?_⟩
  rw [openApi, ho]

end Service

end ServiceSpec
