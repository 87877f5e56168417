import ServiceSpec.Proofs.FullExpansion

/-!
# The names a service is expected to have

Types are resolved before anything is added, against names that are expected to be there in the end.
The prediction is exact.  Every expected name is the name of an object or enum of the expanded
service, and every other name belongs to an error object of a request or to a filter of one: these
cannot be referred to in advance.

One thing stands in the way.  An object that is named like a filter of another object is taken for
that filter, and gets no filters of its own, though these were expected.  Where there is no such
object, every reference that was accepted before expansion holds after it.  What is left are the
bodies of responses, since resolution does not look at them.

## Main definitions

* `Service.FiltersApart`: no object is named like a filter of another one

## Main results

* `mem_expected_objects_iff`: the expected objects, by the names of the expanded service
* `bodyReferences_base`: the bodies of expanded endpoints that expansion does not answer for
* `expected_exact`: the expected names, and what the check of references can still report
-/

namespace ServiceSpec

/-! ## Bodies -/

theorem Standard.bodyObject_of_mem_errorResponses {hasBody : Bool} {r : ErrorResponse}
    (h : r ∈ errorResponses hasBody) : r.bodyObject = error := by
  obtain ⟨c, -, rfl⟩ := List.mem_map.mp h
  rfl

/-- A standard endpoint answers with the entity itself, and only where it can be read. -/
theorem StandardEndpoint.bodyObject_build {r : Resource} {k : StandardEndpoint} {o : String}
    (hk : r.allows k.operation) (h : (k.build r).response.bodyObject = some o) :
    r.allows .read ∧ o = r.name := by
  have hentity : ∀ code, (r.entityResponse code).bodyObject = some o →
      r.allows .read ∧ o = r.name := by
    intro code h
    rw [Resource.entityResponse] at h
    split at h
    · rename_i ha
      exact ⟨ha, (Option.some.inj h).symm⟩
    · cases h
  cases k with
  | create => exact hentity 201 h
  | get => exact ⟨hk, (Option.some.inj h).symm⟩
  | update => exact hentity 200 h
  | list | delete | search => cases h

namespace Service

variable {s b : Service} {n : String}

/-- The bodies of expanded endpoints name objects of the base expansion, but for the responses of
endpoints that the service declares. -/
theorem bodyReferences_base {r : Resource} (hr : r ∈ s.base.resources) {e : Endpoint}
    (he : e ∈ r.endpoints) {body : String × BodyRole} (hbody : body ∈ e.bodyReferences) :
    body.1 ∈ s.base.objectNames ∨
      ∃ r' ∈ s.resources, r'.name = r.name ∧ ∃ e' ∈ r'.endpoints, e'.name = e.name ∧
        e'.response.bodyObject = some body.1 ∧ body.2 = .response := by
  have hreadable : r.allows .read → r.name ∈ s.base.objectNames := fun ha =>
    mem_objectNames_base_of_owner (mem_expectedOwners.mpr
      (.inr (.inr (readableNames_base s ▸ mem_readableNames.mpr ⟨r, hr, ha, rfl⟩))))
  rw [resources_base] at hr
  obtain ⟨x, hx, rfl⟩ := List.mem_map.mp hr
  obtain ⟨r', hr', rfl⟩ := List.mem_map.mp hx
  obtain ⟨y, hy, rfl⟩ := List.mem_map.mp he
  rcases List.mem_append.mp hbody with hresponse | herror
  · obtain ⟨o, ho, rfl⟩ := List.mem_map.mp hresponse
    have ho : y.response.bodyObject = some o := Option.mem_toList.mp ho
    rcases List.mem_append.mp hy with hstandard | hown
    · obtain ⟨k, hk, rfl⟩ := List.mem_map.mp hstandard
      have hallows := (Bool.and_eq_true_iff.mp (List.mem_filter.mp hk).2).1
      obtain ⟨hread, rfl⟩ := StandardEndpoint.bodyObject_build hallows ho
      exact .inl (hreadable hread)
    · obtain ⟨e', he', rfl⟩ := List.mem_map.mp hown
      exact .inr ⟨r', hr', rfl, e', he', rfl, ho, rfl⟩
  · obtain ⟨c, hc, rfl⟩ := List.mem_map.mp herror
    rw [Standard.bodyObject_of_mem_errorResponses hc]
    exact .inl (mem_objectNames_base_of_owner (mem_expectedOwners.mpr (.inr (.inl (by decide)))))

/-! ## Names -/

/-- No object is named like a filter of another one. -/
def FiltersApart (s : Service) : Prop :=
  ∀ x ∈ s.objects, ∀ y ∈ s.objects, x ≠ y → x.name ∉ Standard.filterNames y.name

instance (s : Service) : Decidable s.FiltersApart :=
  inferInstanceAs (Decidable (∀ x ∈ s.objects, ∀ y ∈ s.objects, x ≠ y →
    x.name ∉ Standard.filterNames y.name))

theorem FiltersApart.notMem (h : s.FiltersApart) {x y : Object} (hx : x ∈ s.objects)
    (hy : y ∈ s.objects) : x.name ∉ Standard.filterNames y.name := by
  rcases eq_or_ne x y with rfl | hne
  · exact Standard.notMem_filterNames_self x.name
  · exact h x hx y hy hne

theorem FiltersApart.filterOwners_eq (h : s.FiltersApart) : s.filterOwners = s.objects :=
  filterOwners_eq_self (fun _ _ => List.not_mem_nil) fun _ hx _ hy => h.notMem hx hy

/-- **The expected objects are the objects of the expanded service**, but for the error objects of
requests and the filters of these. -/
theorem mem_expected_objects_iff (h : s.base.FiltersApart) :
    n ∈ (TypeIndex.expected s).objects ↔
      n ∈ s.base.withFilters.objectNames ∧
        ∀ x ∈ s.requestErrors, n ≠ x.name ∧ n ∉ Standard.filterNames x.name := by
  have hfree : ∀ x ∈ s.requestErrors, x.name ∉ s.entities.objectNames := fun x hx =>
    RequestErrors.name_notMem_known (List.mem_map_of_mem hx)
  rw [mem_expected_objects, mem_objectNames_withFilters, h.filterOwners_eq]
  simp only [← mem_objectNames_entities]
  constructor
  · rintro (hn | ⟨y, hy, hn⟩)
    · obtain ⟨o, ho, rfl⟩ := List.mem_map.mp hn
      have hob : o ∈ s.base.objects := List.mem_append_left _ ho
      refine ⟨.inl (List.mem_map_of_mem hob), fun x hx => ⟨fun heq => ?_, ?_⟩⟩
      · exact hfree x hx (heq ▸ hn)
      · exact h.notMem hob (List.mem_append_right _ hx)
    · obtain ⟨o, ho, rfl⟩ := List.mem_map.mp hy
      have hob : o ∈ s.base.objects := List.mem_append_left _ ho
      refine ⟨.inr ⟨o, hob, hn⟩, fun x hx => ⟨?_, fun hnx => ?_⟩⟩
      · rintro rfl
        exact h.notMem (List.mem_append_right _ hx) hob hn
      · exact hfree x hx (Standard.eq_of_mem_filterNames hn hnx ▸ hy)
  · rintro ⟨hn | ⟨o, ho, hn⟩, hx⟩
    · rcases mem_objectNames_base.mp hn with hn | hn
      · exact .inl hn
      · obtain ⟨x, hmem, rfl⟩ := List.mem_map.mp hn
        exact absurd rfl (hx x hmem).1
    · rcases List.mem_append.mp ho with ho | ho
      · exact .inr ⟨o.name, List.mem_map_of_mem ho, hn⟩
      · exact absurd hn (hx o ho).2

/-- Every type of a service with its filters is settled by the names it declares. -/
theorem settled_withFilters_base (hr : s.resolve.2 = []) (h : s.base.FiltersApart) :
    s.base.withFilters.Settled (TypeIndex.declared s.base.withFilters) := by
  have hexpected : (TypeIndex.expected s).Sub (TypeIndex.declared s.base.withFilters) :=
    ⟨fun n hn => ((mem_expected_objects_iff h).mp hn).1, fun n hn => mem_enumNames_base.mpr hn⟩
  refine (settled_base hr hexpected fun n hn => ?_).withFilters fun o ho n hn => ?_
  · exact objectNames_subset_withFilters hn
  · exact mem_objectNames_withFilters.mpr (.inr ⟨o, ho, hn⟩)

/-- What the check of references can report of a service with its filters. -/
theorem verifyReferences_withFilters_base (hr : s.resolve.2 = []) (h : s.base.FiltersApart)
    {x : ExpansionError} (hx : s.base.withFilters.verifyReferences = .error x) :
    ∃ r ∈ s.resources, ∃ e ∈ r.endpoints, ∃ o, e.response.bodyObject = some o ∧
      o ∉ s.base.withFilters.objectNames ∧
      x = .unknownBodyObject r.name e.name o .response := by
  have hmem := mem_unknownBodies_of_verifyReferences (settled_withFilters_base hr h) hx
  obtain ⟨r, hmr, e, hme, body, hbody, hfree, rfl⟩ := mem_unknownBodies.mp hmem
  rcases bodyReferences_base hmr hme hbody with hn | ⟨r', hr', hrn, e', he', hen, ho, hrole⟩
  · exact absurd (objectNames_subset_withFilters hn) hfree
  · exact ⟨r', hr', e', he', body.1, ho, hfree, by rw [hrn, hen, hrole]⟩

/-- **The expected names are exact.**  The expected enums are those of the base expansion, and the
expected objects are those of the service with filters but for the error objects of requests and the
filters of these.  So every type is known in the end, and the check of references can only report a
response whose body the service itself names. -/
theorem expected_exact (h : s.expandBase = .ok b) (hf : b.FiltersApart) :
    (∀ n, n ∈ (TypeIndex.expected s).enums ↔ n ∈ b.enumNames) ∧
    (∀ n, n ∈ (TypeIndex.expected s).objects ↔ n ∈ b.withFilters.objectNames ∧
      ∀ x ∈ s.requestErrors, n ≠ x.name ∧ n ∉ Standard.filterNames x.name) ∧
    (∀ unresolved, b.withFilters.verifyReferences ≠ .error (.reference unresolved)) ∧
    ∀ x, b.withFilters.verifyReferences = .error x →
      ∃ r ∈ s.resources, ∃ e ∈ r.endpoints, ∃ o, e.response.bodyObject = some o ∧
        o ∉ b.withFilters.objectNames ∧ x = .unknownBodyObject r.name e.name o .response := by
  obtain ⟨hs, rfl⟩ := expandBase_eq_ok_iff.mp h
  refine ⟨fun n => mem_enumNames_base.symm, fun n => mem_expected_objects_iff hf, ?_,
    fun x hx => verifyReferences_withFilters_base hs.resolves hf hx⟩
  intro unresolved hx
  obtain ⟨r, -, e, -, o, -, -, heq⟩ := verifyReferences_withFilters_base hs.resolves hf hx
  cases heq

theorem expected_exact_bookshop :
    bookshop.expandBase = .ok bookshop.base ∧ bookshop.base.FiltersApart ∧
      (∀ n, n ∈ (TypeIndex.expected bookshop).objects ↔
        n ∈ bookshop.base.withFilters.objectNames ∧
          ∀ x ∈ bookshop.requestErrors, n ≠ x.name ∧ n ∉ Standard.filterNames x.name) ∧
      ∀ unresolved,
        bookshop.base.withFilters.verifyReferences ≠ .error (.reference unresolved) := by
  have hf : bookshop.base.FiltersApart := by decide +kernel
  obtain ⟨-, hobjects, hreference, -⟩ := expected_exact bookshop_expandBase hf
  exact ⟨bookshop_expandBase, hf, hobjects, hreference⟩

end Service

end ServiceSpec
