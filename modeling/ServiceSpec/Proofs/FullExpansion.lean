import ServiceSpec.Expansion
import ServiceSpec.Proofs.BaseExpansion
import ServiceSpec.Proofs.FilterGroups

/-!
# The full expansion

The full expansion is the base expansion, the filters, and a check of references that changes
nothing.  The check has two parts.  The types are settled or all open ones are reported together;
then the first body that names no object is reported.

## Main results

* `verifyReferences_eq_ok_iff`: what the check of references accepts
* `mem_unknownBodies`: the bodies that the check can report
* `expand_eq_ok_iff`: when expansion succeeds, and with what
* `Settled.withFilters`: filters refer to what the objects refer to, and to each other
-/

namespace ServiceSpec

namespace Service

variable {s : Service} {i : TypeIndex}

/-! ## The check of references -/

theorem verifyReferences_of_settled (h : s.Settled (TypeIndex.declared s)) :
    s.verifyReferences = s.unknownBodies.head?.elim (.ok ()) .error := by
  rw [verifyReferences, unresolvedTypes_eq_nil_iff.mpr h]
  cases s.unknownBodies <;> rfl

theorem verifyReferences_of_not_settled (h : ¬ s.Settled (TypeIndex.declared s)) :
    s.verifyReferences = .error (.reference (s.unresolvedTypes (TypeIndex.declared s))) := by
  rw [← unresolvedTypes_eq_nil_iff] at h
  rw [verifyReferences]
  split
  · contradiction
  · rfl

/-- **What the check of references accepts.** -/
theorem verifyReferences_eq_ok_iff :
    s.verifyReferences = .ok () ↔ s.Settled (TypeIndex.declared s) ∧ s.unknownBodies = [] := by
  by_cases h : s.Settled (TypeIndex.declared s)
  · rw [verifyReferences_of_settled h]
    cases s.unknownBodies <;> simp [h]
  · simp [verifyReferences_of_not_settled h, h]

/-- **The bodies that the check can report**: those of endpoints, where they name no object. -/
theorem mem_unknownBodies {x : ExpansionError} :
    x ∈ s.unknownBodies ↔
      ∃ r ∈ s.resources, ∃ e ∈ r.endpoints, ∃ body ∈ e.bodyReferences,
        body.1 ∉ s.objectNames ∧ .unknownBodyObject r.name e.name body.1 body.2 = x := by
  simp [unknownBodies, endpoints, and_assoc]

theorem unknownBodies_eq_nil_iff :
    s.unknownBodies = [] ↔
      ∀ re ∈ s.endpoints, ∀ body ∈ re.2.bodyReferences, body.1 ∈ s.objectNames := by
  simp [unknownBodies, List.filter_eq_nil_iff]

/-- On settled types, the check fails with one of the bodies that name no object. -/
theorem mem_unknownBodies_of_verifyReferences {x : ExpansionError}
    (hs : s.Settled (TypeIndex.declared s)) (h : s.verifyReferences = .error x) :
    x ∈ s.unknownBodies := by
  rw [verifyReferences_of_settled hs] at h
  cases hbodies : s.unknownBodies with
  | nil =>
    rw [hbodies] at h
    cases h
  | cons first rest =>
    rw [hbodies] at h
    obtain rfl := Except.error.inj h
    exact List.mem_cons_self ..

/-- Filters refer to what the objects refer to, and to each other. -/
theorem Settled.withFilters (h : s.Settled i)
    (hi : ∀ o ∈ s.filterOwners, ∀ n ∈ Standard.filterNames o.name, n ∈ i.objects) :
    s.withFilters.Settled i where
  objects x hx f hf := by
    rcases List.mem_append.mp hx with hx | hx
    · exact h.objects x hx f hf
    · obtain ⟨o, ho, hxo⟩ := exists_owner_of_mem_missingFilters hx
      rcases Object.type_of_mem_filters hxo hf with ⟨p, hp⟩ | ⟨g, hg, heq⟩ | ⟨n, hn, heq⟩
      · rw [hp]
        exact TypeIndex.settles_primitive p
      · rw [heq]
        exact h.objects o (mem_of_mem_filterOwners ho) g hg
      · rw [heq, TypeIndex.settles_object]
        exact hi o ho n hn
  columns := h.columns
  endpoints := h.endpoints

/-! ## Outcomes -/

/-- After the base expansion, only the check of references can fail. -/
theorem expand_of_expandBase {b : Service} (h : s.expandBase = .ok b) :
    s.expand = b.withFilters.verifyReferences.map fun _ => b.withFilters := by
  rw [expand, h]
  cases hv : b.withFilters.verifyReferences <;>
    simp [hv, bind, Except.bind, Except.map, pure, Except.pure]

theorem expand_of_error {x : ExpansionError} (h : s.expandBase = .error x) :
    s.expand = .error x := by
  rw [expand, h]
  rfl

/-- **When expansion succeeds, and with what.** -/
theorem expand_eq_ok_iff {e : Service} :
    s.expand = .ok e ↔
      s.Expandable ∧ e.verifyReferences = .ok () ∧ e = s.base.withFilters := by
  constructor
  · intro h
    cases hb : s.expandBase with
    | error x =>
      rw [expand_of_error hb] at h
      cases h
    | ok b =>
      obtain ⟨hs, rfl⟩ := expandBase_eq_ok_iff.mp hb
      rw [expand_of_expandBase hb] at h
      cases hv : s.base.withFilters.verifyReferences with
      | error x =>
        rw [hv] at h
        cases h
      | ok _ =>
        rw [hv] at h
        obtain rfl := Except.ok.inj h
        exact ⟨hs, hv, rfl⟩
  · rintro ⟨hs, hv, rfl⟩
    rw [expand_of_expandBase (expandBase_eq_ok_iff.mpr ⟨hs, rfl⟩), hv]
    rfl

theorem bookshop_expand : bookshop.expand = .ok bookshop.base.withFilters :=
  expand_eq_ok_iff.mpr ⟨bookshop_expandable, by decide +kernel, rfl⟩

end Service

end ServiceSpec
