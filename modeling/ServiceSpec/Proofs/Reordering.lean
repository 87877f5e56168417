import ServiceSpec.Proofs.Additions
import ServiceSpec.Proofs.ErrorReach
import ServiceSpec.Proofs.ExpectedNames

/-!
# The order of declarations

A service lists its enums, its objects and its resources, and in which order it does so should not
matter.  Most steps of expansion look for names, and what is found under a name is the same in every
order if names are distinct.  Two steps do depend on the order.  The builder of error objects serves
the first of several sources that have the same error name, and filters are given to an object only
if it is not named like a filter of an object before it.

So the order does not matter where error names tell sources apart and no object is named like a
filter of another one.  Then a service whose declarations stand in another order expands too, and to
the same entities in another order.

## Main definitions

* `Service.Reorders`: two services that list the same enums, objects and resources
* `Service.SourcesApart`: no two of the sources that error objects are made for share an error name

## Main results

* `Reorders.expandable`: base expansion accepts both of two such services or none
* `Reorders.base`, `Reorders.withFilters`: the steps of expansion keep this relation
* `expand_reorders`: the order of declarations does not decide the outcome
-/

namespace ServiceSpec

/-! ## Indexes with the same names -/

namespace TypeIndex

variable {i j : TypeIndex}

/-- Resolution depends on which names an index has. -/
theorem resolve_congr (h : i.Sub j) (h' : j.Sub i) : i.resolve = j.resolve := by
  have hobjects : ∀ n, i.hasObject n = j.hasObject n := fun n => by
    rw [Bool.eq_iff_iff, hasObject, hasObject, List.contains_iff_mem, List.contains_iff_mem]
    exact ⟨h.objects n, h'.objects n⟩
  have henums : ∀ n, i.hasEnum n = j.hasEnum n := fun n => by
    rw [Bool.eq_iff_iff, hasEnum, hasEnum, List.contains_iff_mem, List.contains_iff_mem]
    exact ⟨h.enums n, h'.enums n⟩
  funext t
  cases t <;> simp only [resolve, hobjects, henums]

theorem settle_congr (h : i.Sub j) (h' : j.Sub i) : i.settle = j.settle := by
  funext t
  rw [settle, settle, resolve_congr h h']

end TypeIndex

theorem Object.settledBy_congr {i j : TypeIndex} (h : i.settle = j.settle) (o : Object) :
    o.settledBy i = o.settledBy j := by
  simp only [settledBy, Field.settledBy, h]

theorem Resource.completed_congr {i j : TypeIndex} (h : i.settle = j.settle) (r : Resource) :
    r.completed i = r.completed j := by
  simp only [completed, Field.settledBy, h]

/-- What a list lacks does not depend on its order. -/
theorem filter_notMem_perm {α : Type} {key : α → String} {names others : List String}
    (h : names.Perm others) (l : List α) :
    l.filter (key · ∉ names) = l.filter (key · ∉ others) :=
  List.filter_congr fun _ _ => decide_eq_decide.mpr (not_congr h.mem_iff)

namespace Service

/-! ## Services that list the same -/

/-- Two services that differ in the order of their enums, objects and resources. -/
structure Reorders (s s' : Service) : Prop where
  name : s.name = s'.name
  version : s.version = s'.version
  servers : s.servers = s'.servers
  enums : s.enums.Perm s'.enums
  objects : s.objects.Perm s'.objects
  resources : s.resources.Perm s'.resources

variable {s s' e b : Service} {n : String}

namespace Reorders

theorem symm (h : s.Reorders s') : s'.Reorders s where
  name := h.name.symm
  version := h.version.symm
  servers := h.servers.symm
  enums := h.enums.symm
  objects := h.objects.symm
  resources := h.resources.symm

theorem objectNames (h : s.Reorders s') : s.objectNames.Perm s'.objectNames :=
  h.objects.map _

theorem enumNames (h : s.Reorders s') : s.enumNames.Perm s'.enumNames :=
  h.enums.map _

theorem readableNames (h : s.Reorders s') : s.readableNames.Perm s'.readableNames :=
  (h.resources.filter _).map _

theorem endpoints (h : s.Reorders s') : s.endpoints.Perm s'.endpoints :=
  h.resources.flatMap_right _

theorem wellNamed (h : s.Reorders s') (hw : s.WellNamed) : s'.WellNamed where
  enums := h.enumNames.nodup_iff.mp hw.enums
  objects := h.objectNames.nodup_iff.mp hw.objects
  resources := (h.resources.map _).nodup_iff.mp hw.resources
  apart n hn ho := hw.apart n (h.enumNames.mem_iff.mpr hn) (h.objectNames.mem_iff.mpr ho)

theorem violations_eq_nil (h : s.Reorders s') (hv : s.violations = []) : s'.violations = [] := by
  obtain ⟨henums, hobjects, hresources, hw⟩ := violations_eq_nil_iff.mp hv
  exact violations_eq_nil_iff.mpr ⟨fun x hx => henums x (h.enums.mem_iff.mpr hx),
    fun o ho => hobjects o (h.objects.mem_iff.mpr ho),
    fun r hr => hresources r (h.resources.mem_iff.mpr hr), h.wellNamed hw⟩

/-! ## Resolution -/

theorem declared_sub (h : s.Reorders s') :
    (TypeIndex.declared s).Sub (TypeIndex.declared s') where
  objects _ hn := h.objectNames.mem_iff.mp hn
  enums _ hn := h.enumNames.mem_iff.mp hn

theorem expected_sub (h : s.Reorders s') :
    (TypeIndex.expected s).Sub (TypeIndex.expected s') := by
  have howners : ∀ n ∈ TypeIndex.expectedOwners s, n ∈ TypeIndex.expectedOwners s' := by
    intro n hn
    rw [mem_expectedOwners] at hn ⊢
    exact hn.imp h.objectNames.mem_iff.mp (Or.imp_right h.readableNames.mem_iff.mp)
  refine ⟨fun n hn => ?_, fun n hn => ?_⟩
  · rw [mem_expected_objects] at hn ⊢
    exact hn.imp (howners n) fun ⟨x, hx, hnx⟩ => ⟨x, howners x hx, hnx⟩
  · rw [mem_expected_enums] at hn ⊢
    exact hn.imp_left h.enumNames.mem_iff.mp

theorem settle_eq (h : s.Reorders s') :
    (TypeIndex.expected s).settle = (TypeIndex.expected s').settle :=
  TypeIndex.settle_congr h.expected_sub h.symm.expected_sub

theorem completed_eq (h : s.Reorders s') :
    Resource.completed (.expected s) = Resource.completed (.expected s') :=
  funext (Resource.completed_congr h.settle_eq)

/-- Both services have only known types, or none has. -/
theorem resolve_eq_nil (h : s.Reorders s') (hr : s.resolve.2 = []) : s'.resolve.2 = [] := by
  rw [resolve, snd_resolveWith, rejectedTypes_eq_nil_iff] at hr ⊢
  rw [TypeIndex.resolve_congr h.symm.expected_sub h.expected_sub]
  obtain ⟨hobjects, hcolumns, hendpoints⟩ := (forall_locatedFields
    (P := fun f => ((TypeIndex.expected s).resolve f.type).isSome)).mp hr
  refine (forall_locatedFields
    (P := fun f => ((TypeIndex.expected s).resolve f.type).isSome)).mpr ⟨fun o ho => ?_,
      fun r hr => ?_, fun r hr => ?_⟩
  · exact hobjects o (h.objects.mem_iff.mpr ho)
  · exact hcolumns r (h.resources.mem_iff.mpr hr)
  · exact hendpoints r (h.resources.mem_iff.mpr hr)

/-! ## Base expansion -/

theorem lacksBody_iff (h : s.Reorders s') (r : Resource) : s.LacksBody r ↔ s'.LacksBody r := by
  rw [LacksBody, LacksBody, h.objectNames.mem_iff]

/-- Both services have the same entities. -/
theorem entities (h : s.Reorders s') : s.entities.objects.Perm s'.entities.objects := by
  have hstandard : Standard.objectEntities.filter (·.name ∉ s.objectNames) =
      Standard.objectEntities.filter (·.name ∉ s'.objectNames) :=
    filter_notMem_perm h.objectNames _
  have hlacks : s.resources.filter (s.LacksBody ·) = s.resources.filter (s'.LacksBody ·) :=
    List.filter_congr fun r _ => decide_eq_decide.mpr (h.lacksBody_iff r)
  have hsettled : Object.settledBy (.expected s) = Object.settledBy (.expected s') :=
    funext (Object.settledBy_congr h.settle_eq)
  rw [objects_entities, objects_entities, completedObjects, completedObjects, hstandard, hlacks,
    hsettled, h.completed_eq]
  exact ((h.objects.map _).append_right _).append ((h.resources.filter _).map _)

theorem filterNameViolations_eq_nil (h : s.Reorders s') (hw : s.WellNamed)
    (hc : s.entities.filterNameViolations = []) : s'.entities.filterNameViolations = [] := by
  rw [filterNameViolations_eq_nil_iff] at hc ⊢
  intro o ho f hf y hy
  refine hc o (h.entities.mem_iff.mpr ho) f hf y ?_
  rwa [findObject?, find?_key_perm h.entities (nodup_objectNames_entities hw)]

/-- **Base expansion accepts both of two such services or none.** -/
theorem expandable (h : s.Reorders s') (hs : s.Expandable) : s'.Expandable where
  valid := h.violations_eq_nil hs.valid
  resolves := h.resolve_eq_nil hs.resolves
  unclashed := h.filterNameViolations_eq_nil (wellNamed_of_violations hs.valid) hs.unclashed

end Reorders

/-- No two of the sources that error objects are made for have the same error name.  These are the
entities, and the endpoints of the outcome of base expansion that have a body. -/
def SourcesApart (s : Service) : Prop :=
  RequestErrors.NamesApart s.entities.objects s.base.endpoints

namespace Reorders

theorem resources_base (h : s.Reorders s') : s.base.resources.Perm s'.base.resources := by
  rw [resources_base_eq, resources_base_eq, h.completed_eq]
  exact h.resources.map _

/-- **Base expansion keeps the relation**, if sources are told apart. -/
theorem base (h : s.Reorders s') (hw : s.WellNamed) (hd : s.SourcesApart) :
    s.base.Reorders s'.base where
  name := h.name
  version := h.version
  servers := h.servers
  enums := by
    have hstandard : Standard.enumEntities.filter (·.name ∉ s.enumNames) =
        Standard.enumEntities.filter (·.name ∉ s'.enumNames) :=
      filter_notMem_perm h.enumNames _
    rw [enums_base_eq, enums_base_eq, hstandard]
    exact h.enums.append_right _
  objects := by
    rw [objects_base, objects_base]
    exact h.entities.append (RequestErrors.ofEndpoints_perm h.entities
      (nodup_objectNames_entities hw) (h.resources_base.flatMap_right _) hd)
  resources := h.resources_base

end Reorders

/-! ## Filters and references -/

theorem FiltersApart.mem_missingFilters_iff (hf : s.FiltersApart) (hn : s.objectNames.Nodup)
    {x : Object} :
    x ∈ missingFilters s.objectNames [] s.objects ↔
      x.name ∉ s.objectNames ∧ ∃ o ∈ s.objects, x ∈ o.filters := by
  have howners : ServiceSpec.filterOwners [] s.objects = s.objects := hf.filterOwners_eq
  constructor
  · intro hx
    obtain ⟨o, ho, hxo⟩ := exists_owner_of_mem_missingFilters hx
    exact ⟨(mem_names_missingFilters.mp (List.mem_map_of_mem hx)).1, o,
      mem_of_mem_filterOwners ho, hxo⟩
  · rintro ⟨hfree, o, ho, hxo⟩
    exact mem_missingFilters hn (by rwa [howners]) hxo hfree

namespace Reorders

theorem filtersApart (h : s.Reorders s') (hf : s.FiltersApart) : s'.FiltersApart :=
  fun x hx y hy => hf x (h.objects.mem_iff.mpr hx) y (h.objects.mem_iff.mpr hy)

/-- **Filters keep the relation**, if no object is named like a filter of another one. -/
theorem withFilters (h : s.Reorders s') (hn : s.objectNames.Nodup) (hf : s.FiltersApart) :
    s.withFilters.Reorders s'.withFilters where
  name := h.name
  version := h.version
  servers := h.servers
  enums := h.enums
  objects := by
    refine h.objects.append ?_
    rw [List.perm_ext_iff_of_nodup (nodup_names_missingFilters _ _ _).of_map
      (nodup_names_missingFilters _ _ _).of_map]
    intro x
    -- every object has filters, so it does not matter which one comes first
    rw [hf.mem_missingFilters_iff hn,
      (h.filtersApart hf).mem_missingFilters_iff (h.objectNames.nodup_iff.mp hn),
      h.objectNames.mem_iff]
    simp only [h.objects.mem_iff]
  resources := h.resources

theorem settled (h : s.Reorders s') {i : TypeIndex} (hs : s.Settled i) : s'.Settled i where
  objects o ho := hs.objects o (h.objects.mem_iff.mpr ho)
  columns r hr := hs.columns r (h.resources.mem_iff.mpr hr)
  endpoints r hr := hs.endpoints r (h.resources.mem_iff.mpr hr)

/-- The check of references accepts both services or none. -/
theorem verifyReferences (h : s.Reorders s') (hv : s.verifyReferences = .ok ()) :
    s'.verifyReferences = .ok () := by
  obtain ⟨hs, hbodies⟩ := verifyReferences_eq_ok_iff.mp hv
  rw [unknownBodies_eq_nil_iff] at hbodies
  refine verifyReferences_eq_ok_iff.mpr ⟨(h.settled hs).mono h.declared_sub, ?_⟩
  rw [unknownBodies_eq_nil_iff]
  intro re hre body hbody
  exact h.objectNames.mem_iff.mp (hbodies re (h.endpoints.mem_iff.mpr hre) body hbody)

end Reorders

/-- **The order of declarations does not decide the outcome.**  If a service expands, no object of
its base expansion is named like a filter of another one, and error names tell apart what error
objects are made for, then it expands in any order of its enums, objects and resources, to the same
enums, objects and resources in some order. -/
theorem expand_reorders (h : s.expand = .ok e) (hb : s.expandBase = .ok b) (hf : b.FiltersApart)
    (hd : s.SourcesApart) (hp : s.Reorders s') :
    ∃ e', s'.expand = .ok e' ∧ e.Reorders e' := by
  obtain ⟨hs, rfl⟩ := expandBase_eq_ok_iff.mp hb
  obtain ⟨-, hv, rfl⟩ := expand_eq_ok_iff.mp h
  have hw := wellNamed_of_violations hs.valid
  -- the relation goes through base expansion and through filters, and the checks respect it
  have hbase := hp.base hw hd
  have hfilters := hbase.withFilters (nodup_objectNames_base hw) hf
  exact ⟨_, expand_eq_ok_iff.mpr ⟨hp.expandable hs, hfilters.verifyReferences hv, rfl⟩, hfilters⟩

/-- A service with two objects that refer to each other, and two resources that each refer to one of
them. -/
def archive : Service where
  name := "Archive"
  enums :=
    [{ name := "Medium", values := [{ name := "Paper" }] },
     { name := "Access", values := [{ name := "Open" }] }]
  objects :=
    [{ name := "Folder"
       fields := [{ name := "content", type := .named "Document", modifiers := [.array] }] },
     { name := "Document"
       fields :=
         [{ name := "folder", type := .named "Folder", modifiers := [.nullable] },
          { name := "medium", type := .named "Medium" }] }]
  resources :=
    [{ name := "Shelf"
       operations := [.create]
       fields :=
         [{ field := { name := "first", type := .named "Folder" }, operations := [.create] }] },
     { name := "Loan"
       operations := [.create]
       fields :=
         [{ field := { name := "of", type := .named "Document" }, operations := [.create] }] }]

/-- The service with everything declared in the opposite order. -/
def archiveReversed : Service :=
  { archive with
    enums := archive.enums.reverse
    objects := archive.objects.reverse
    resources := archive.resources.reverse }

/-- The builder comes to the two objects in different orders. -/
theorem expand_reorders_archive :
    archive.expand = .ok archive.base.withFilters ∧ archive.base.FiltersApart ∧
      archive.SourcesApart ∧ archive.Reorders archiveReversed ∧
      archive.requestErrors.map (·.name) =
        ["DocumentRequestError", "FolderRequestError", "ShelfCreateRequestError",
          "LoanCreateRequestError"] ∧
      archiveReversed.requestErrors.map (·.name) =
        ["FolderRequestError", "DocumentRequestError", "LoanCreateRequestError",
          "ShelfCreateRequestError"] ∧
      ∃ e', archiveReversed.expand = .ok e' ∧ archive.base.withFilters.Reorders e' := by
  have hs : archive.Expandable := ⟨by decide +kernel, by decide +kernel, by decide +kernel⟩
  have he : archive.expand = .ok archive.base.withFilters :=
    expand_eq_ok_iff.mpr ⟨hs, by decide +kernel, rfl⟩
  have hb : archive.expandBase = .ok archive.base := expandBase_eq_ok_iff.mpr ⟨hs, rfl⟩
  have hf : archive.base.FiltersApart := by decide +kernel
  have hd : archive.SourcesApart := RequestErrors.namesApart_of_nodup (by decide +kernel)
  have hp : archive.Reorders archiveReversed :=
    ⟨rfl, rfl, rfl, (List.reverse_perm _).symm, (List.reverse_perm _).symm,
      (List.reverse_perm _).symm⟩
  exact ⟨he, hf, hd, hp, by decide +kernel, by decide +kernel, expand_reorders he hb hf hd hp⟩

end Service

end ServiceSpec
