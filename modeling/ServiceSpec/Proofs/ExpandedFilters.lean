import ServiceSpec.Proofs.FullExpansion

/-!
# Filter groups of an expanded service

Filters are added to every object that is not itself a filter of another one, and a filter is left
out where its name is taken.  So the group of an object is always complete: under each of the six
names there is an object.  Whether it is the filter depends on what took the name before.

Base expansion checks this for the entities of a service, and refuses those in which anything but
the filter itself stands in its place.  The check comes before the error objects of requests are
built, so these are owners that nothing was checked for.  An entity may stand in the place of a
filter of an error object; then it stays, and the group of that error object is not what it is meant
to be.  Expanding such a service once more fails, because by then the error object is there when the
check is made.

No other way leads to this: error objects are never named like filters, and the filters of two
objects never share a name.

## Main definitions

* `Service.Underived`: no other object has the name of the given one among its filter names
* `Service.HasFilters`: the filters of an object stand under its filter names
* `Service.Unoccupied`: no entity stands in the place of a filter of an object

## Main results

* `findObject?_withFilters`: what stands under the filter names of an owner
* `hasFilters_iff_unoccupied`: when the filter group of an owner is exact
* `filterGroups_expand_iff`: the filter groups of an expanded service
-/

namespace ServiceSpec

namespace Service

variable {s b e : Service} {x f : Object}

/-- No other object of the service has the name of the object among its filter names. -/
def Underived (s : Service) (x : Object) : Prop :=
  ∀ y ∈ s.objects, y ≠ x → x.name ∉ Standard.filterNames y.name

/-- The filters of the object stand under its filter names. -/
def HasFilters (s : Service) (x : Object) : Prop :=
  ∀ f ∈ x.filters, s.findObject? f.name = some f

/-! ## What stands under a filter name -/

/-- An object that is named like a filter of no other one is an owner. -/
theorem Underived.mem_filterOwners (hu : b.withFilters.Underived x)
    (hx : x ∈ b.withFilters.objects) : x ∈ b.filterOwners := by
  have hfree : ∀ y ∈ b.objects, x.name ∉ Standard.filterNames y.name := by
    intro y hy
    rcases eq_or_ne y x with rfl | hne
    · exact Standard.notMem_filterNames_self y.name
    · exact hu y (List.mem_append_left _ hy) hne
  have hb : x ∈ b.objects := by
    rcases List.mem_append.mp hx with hx | hx
    · exact hx
    · obtain ⟨o, ho, hxo⟩ := exists_owner_of_mem_missingFilters hx
      exact absurd (Object.name_mem_filterNames hxo) (hfree o (mem_of_mem_filterOwners ho))
  exact ServiceSpec.mem_filterOwners hb List.not_mem_nil hfree

/-- **What stands under the filter names of an owner**: what stood there before filters were added,
and otherwise the filter. -/
theorem findObject?_withFilters (hb : b.objectNames.Nodup) (hx : x ∈ b.filterOwners)
    (hf : f ∈ x.filters) :
    b.withFilters.findObject? f.name = some ((b.findObject? f.name).getD f) := by
  cases hfind : b.findObject? f.name with
  | some y =>
    rw [findObject?, withFilters, List.find?_append, ← findObject?, hfind]
    rfl
  | none =>
    have ht : f.name ∉ b.objectNames := by
      intro hn
      have hsome := hasObject_iff.mpr hn
      rw [hasObject, hfind] at hsome
      cases hsome
    have hmem : f ∈ missingFilters b.objectNames [] b.objects := mem_missingFilters hb hx hf ht
    apply (findObject?_eq_some_iff (nodup_objectNames_withFilters hb)).mpr
    exact ⟨List.mem_append_right _ hmem, rfl⟩

/-- The filter names of an owner are all there. -/
theorem filterNames_subset_withFilters (hx : x ∈ b.filterOwners) :
    ∀ n ∈ Standard.filterNames x.name, n ∈ b.withFilters.objectNames :=
  fun _ hn => mem_objectNames_withFilters.mpr (.inr ⟨x, hx, hn⟩)

/-- The check of filter names accepts a complete group only if it is exact. -/
theorem hasFilters_of_unclashed (h : b.filterNameViolations = []) (hx : x ∈ b.objects)
    (hn : ∀ n ∈ Standard.filterNames x.name, n ∈ b.objectNames) : b.HasFilters x := by
  intro f hf
  have hsome := hasObject_iff.mpr (hn f.name (Object.name_mem_filterNames hf))
  obtain ⟨y, hy⟩ := Option.isSome_iff_exists.mp hsome
  rw [hy, filterNameViolations_eq_nil_iff.mp h x hx f hf y hy]

/-- Under filter names, base expansion has the entities only. -/
theorem findObject?_base_of_mem_filterNames {n object : String}
    (hn : n ∈ Standard.filterNames object) : s.base.findObject? n = s.entities.findObject? n := by
  have hnone : s.requestErrors.find? (·.name = n) = none := by
    rw [List.find?_eq_none]
    intro y hy heq
    obtain ⟨subject, hname⟩ := exists_subject_of_mem_requestErrors hy
    rw [← of_decide_eq_true heq, hname] at hn
    exact Standard.requestErrorName_notMem_filterNames subject object hn
  rw [findObject?, objects_base, List.find?_append, hnone, Option.or_none]
  rfl

/-! ## Entities in the place of filters -/

/-- No entity stands in the place of a filter of the object, unless it is that filter. -/
def Unoccupied (s : Service) (x : Object) : Prop :=
  ∀ f ∈ x.filters, ∀ o ∈ s.entities.objects, o.name = f.name → o = f

instance (s : Service) (x : Object) : Decidable (s.Unoccupied x) :=
  inferInstanceAs (Decidable (∀ f ∈ x.filters, ∀ o ∈ s.entities.objects, o.name = f.name → o = f))

/-- The check of base expansion covers the entities. -/
theorem Expandable.unoccupied (h : s.Expandable) (hx : x ∈ s.entities.objects) :
    s.Unoccupied x := by
  have hnodup := nodup_objectNames_entities (wellNamed_of_violations h.valid)
  intro f hf o ho hn
  have hfind := (findObject?_eq_some_iff hnodup).mpr ⟨ho, hn⟩
  exact filterNameViolations_eq_nil_iff.mp h.unclashed x hx f hf o hfind

/-- **When the filter group of an owner is exact**: no entity stands in the place of a filter. -/
theorem hasFilters_iff_unoccupied (h : s.Expandable) (hx : x ∈ s.base.filterOwners) :
    s.base.withFilters.HasFilters x ↔ s.Unoccupied x := by
  have hw := wellNamed_of_violations h.valid
  have hstands : ∀ f ∈ x.filters, s.base.withFilters.findObject? f.name =
      some ((s.entities.findObject? f.name).getD f) := by
    intro f hf
    rw [findObject?_withFilters (nodup_objectNames_base hw) hx hf,
      findObject?_base_of_mem_filterNames (Object.name_mem_filterNames hf)]
  refine forall₂_congr fun f hf => ?_
  rw [hstands f hf, Option.some_inj]
  constructor
  · intro hd o ho hn
    have hfind := (findObject?_eq_some_iff (nodup_objectNames_entities hw)).mpr ⟨ho, hn⟩
    rwa [hfind] at hd
  · intro hu
    cases hfind : s.entities.findObject? f.name with
    | none => rfl
    | some o =>
      obtain ⟨ho, hn⟩ := (findObject?_eq_some_iff (nodup_objectNames_entities hw)).mp hfind
      exact hu o ho hn

/-- An entity that is named like a filter was declared, or is the body of a resource. -/
theorem mem_names_of_mem_filterNames {n object : String} (hn : n ∈ s.entities.objectNames)
    (hf : n ∈ Standard.filterNames object) : n ∈ s.objectNames ∨ n ∈ s.readableNames := by
  rcases mem_expectedOwners.mp (mem_objectNames_entities.mp hn) with hn | hn | hn
  · exact .inl hn
  · exact absurd hf (Standard.notMem_filterNames (List.mem_append_right _ hn) object)
  · exact .inr hn

/-- Error objects are named like filters of no other object. -/
theorem underived_of_mem_requestErrors (hx : x ∈ s.requestErrors) : b.Underived x := by
  obtain ⟨subject, hname⟩ := exists_subject_of_mem_requestErrors hx
  intro y _ _
  rw [hname]
  exact Standard.requestErrorName_notMem_filterNames subject y.name

/-- **The filter groups of an expanded service.**  For every object that is named like a filter of
no other one there is an object under each of its filter names.  These are its filters, except
where the object reports errors of a request and an entity stands in the place of a filter.  So all
groups are exact if and only if no entity stands in the place of a filter of an error object.  This
is so if none of these names is declared or that of a readable resource. -/
theorem filterGroups_expand_iff (h : s.expand = .ok e) :
    (∀ x ∈ e.objects, e.Underived x → (∀ n ∈ Standard.filterNames x.name, n ∈ e.objectNames) ∧
      (e.HasFilters x ↔ (x ∈ s.requestErrors → s.Unoccupied x))) ∧
    ((∀ x ∈ e.objects, e.Underived x → e.HasFilters x) ↔ ∀ x ∈ s.requestErrors, s.Unoccupied x) ∧
    ((∀ x ∈ s.requestErrors, ∀ n ∈ Standard.filterNames x.name,
        n ∉ s.objectNames ∧ n ∉ s.readableNames) → ∀ x ∈ s.requestErrors, s.Unoccupied x) := by
  obtain ⟨hs, -, rfl⟩ := expand_eq_ok_iff.mp h
  have hgroup : ∀ x ∈ s.base.withFilters.objects, s.base.withFilters.Underived x →
      (s.base.withFilters.HasFilters x ↔ (x ∈ s.requestErrors → s.Unoccupied x)) := by
    intro x hx hu
    have ho := hu.mem_filterOwners hx
    rw [hasFilters_iff_unoccupied hs ho]
    refine ⟨fun hfree _ => hfree, fun herror => ?_⟩
    rcases List.mem_append.mp (mem_of_mem_filterOwners ho) with hx | hx
    · exact hs.unoccupied hx
    · exact herror hx
  have hmem : ∀ x ∈ s.requestErrors, x ∈ s.base.withFilters.objects := fun x hx =>
    List.mem_append_left _ (List.mem_append_right _ hx)
  refine ⟨fun x hx hu => ⟨?_, hgroup x hx hu⟩, ⟨?_, ?_⟩, ?_⟩
  · exact filterNames_subset_withFilters (hu.mem_filterOwners hx)
  · intro hall x hx
    have hu : s.base.withFilters.Underived x := underived_of_mem_requestErrors hx
    exact (hgroup x (hmem x hx) hu).mp (hall x (hmem x hx) hu) hx
  · intro hfree x hx hu
    exact (hgroup x hx hu).mpr fun hx => hfree x hx
  · intro hnames x hx f hf o ho hn
    have hfn := Object.name_mem_filterNames hf
    have hon : f.name ∈ s.entities.objectNames := hn ▸ List.mem_map_of_mem ho
    obtain ⟨hdeclared, hreadable⟩ := hnames x hx f.name hfn
    exact ((mem_names_of_mem_filterNames hon hfn).elim hdeclared hreadable).elim

theorem filterGroups_expand_bookshop :
    bookshop.expand = .ok bookshop.base.withFilters ∧
      (∃ x ∈ bookshop.requestErrors, x.name = "BookCreateRequestError") ∧
      ∀ x ∈ bookshop.base.withFilters.objects, bookshop.base.withFilters.Underived x →
        bookshop.base.withFilters.HasFilters x := by
  have hfree : ∀ x ∈ bookshop.requestErrors, bookshop.Unoccupied x := by decide +kernel
  exact ⟨bookshop_expand, by decide +kernel,
    (filterGroups_expand_iff bookshop_expand).2.1.mpr hfree⟩

/-- A service that declares an object in the place of a filter of an error object. -/
def accounts : Service where
  name := "Accounts"
  objects :=
    [{ name := "UserCreateRequestErrorFilter"
       fields := [{ name := "note", type := .primitive .string }] }]
  resources :=
    [{ name := "User"
       operations := [.create]
       fields :=
         [{ field := { name := "email", type := .primitive .string }
            operations := [.create] }]
       skipAutoColumns := true }]

/-- The declared object stays in the place of the filter, and the outcome does not pass the check
that the service passed. -/
theorem accounts_filter_occupied :
    accounts.violations = [] ∧ accounts.expand = .ok accounts.base.withFilters ∧
      (∃ x ∈ accounts.base.withFilters.objects, x.name = "UserCreateRequestError" ∧
        accounts.base.withFilters.Underived x ∧ ¬ accounts.base.withFilters.HasFilters x) ∧
      accounts.base.withFilters.filterNameViolations ≠ [] := by
  have hs : accounts.Expandable := ⟨by decide +kernel, by decide +kernel, by decide +kernel⟩
  have he : accounts.expand = .ok accounts.base.withFilters :=
    expand_eq_ok_iff.mpr ⟨hs, by decide +kernel, rfl⟩
  obtain ⟨x, hx, hname, hoccupied⟩ : ∃ x ∈ accounts.requestErrors,
      x.name = "UserCreateRequestError" ∧ ¬ accounts.Unoccupied x := by decide +kernel
  have hu : accounts.base.withFilters.Underived x := underived_of_mem_requestErrors hx
  have hmem : x ∈ accounts.base.withFilters.objects :=
    List.mem_append_left _ (List.mem_append_right _ hx)
  have ho := hu.mem_filterOwners hmem
  have hnot : ¬ accounts.base.withFilters.HasFilters x := by
    rwa [hasFilters_iff_unoccupied hs ho]
  refine ⟨hs.valid, he, ⟨x, hmem, hname, hu, hnot⟩, fun hnil => hnot ?_⟩
  exact hasFilters_of_unclashed hnil hmem (filterNames_subset_withFilters ho)

end Service

end ServiceSpec
