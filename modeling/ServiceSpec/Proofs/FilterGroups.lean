import ServiceSpec.Proofs.DerivedNames
import Mathlib.Data.List.Nodup

/-!
# Filter groups

The filters of a service are added object by object.  An object named like a filter of an object
before it gets none; the others are the owners, and each name of a filter of an owner is taken once
all filters are added.  Adding filters a second time changes nothing.

## Main definitions

* `filterOwners`: the objects of a list that get filters

## Main results

* `mem_filterNameViolations_iff`, `filterNameViolations_eq_nil_iff`: what the check of filter names
  reports and accepts
* `mem_objectNames_withFilters`: the names of a service with filters
* `filterOwners_eq_self`: without objects named like filters of others, every object is an owner
* `mem_missingFilters`: every filter of an owner is added unless its name is taken
* `withFilters_withFilters`: filters are added once
-/

namespace ServiceSpec

/-- The objects of a list that get filters.  An object whose name is among `derived`, or is a filter
name of an owner before it, gets none. -/
def filterOwners (derived : List String) : List Object → List Object
  | [] => []
  | o :: rest =>
    if derived.contains o.name then filterOwners derived rest
    else o :: filterOwners (Standard.filterNames o.name ++ derived) rest

/-- The objects of a service that get filters. -/
def Service.filterOwners (s : Service) : List Object :=
  ServiceSpec.filterOwners [] s.objects

theorem filterOwners_cons_of_mem {derived : List String} {o : Object} (rest : List Object)
    (h : o.name ∈ derived) : filterOwners derived (o :: rest) = filterOwners derived rest := by
  rw [filterOwners, if_pos (List.contains_iff_mem.mpr h)]

theorem filterOwners_cons_of_notMem {derived : List String} {o : Object} (rest : List Object)
    (h : o.name ∉ derived) :
    filterOwners derived (o :: rest) =
      o :: filterOwners (Standard.filterNames o.name ++ derived) rest := by
  rw [filterOwners, if_neg (by simpa using h)]

theorem mem_of_mem_filterOwners {derived : List String} {os : List Object} {o : Object}
    (h : o ∈ filterOwners derived os) : o ∈ os := by
  induction os generalizing derived with
  | nil => exact h
  | cons x rest ih =>
    by_cases hx : x.name ∈ derived
    · rw [filterOwners_cons_of_mem rest hx] at h
      exact List.mem_cons_of_mem _ (ih h)
    · rw [filterOwners_cons_of_notMem rest hx] at h
      rcases List.mem_cons.mp h with rfl | h
      · exact List.mem_cons_self ..
      · exact List.mem_cons_of_mem _ (ih h)

/-- The owners among a list that follows another one: the filter names of the owners of the first
list are derived by then. -/
theorem filterOwners_append (derived : List String) (os later : List Object) :
    filterOwners derived (os ++ later) =
      filterOwners derived os ++
        filterOwners (((filterOwners derived os).reverse.flatMap fun o =>
          Standard.filterNames o.name) ++ derived) later := by
  -- the owners of the first list come out in order and are remembered newest first
  induction os generalizing derived with
  | nil => rfl
  | cons o rest ih =>
    by_cases ho : o.name ∈ derived
    · rw [List.cons_append, filterOwners_cons_of_mem _ ho, filterOwners_cons_of_mem _ ho, ih]
    · rw [List.cons_append, filterOwners_cons_of_notMem _ ho, filterOwners_cons_of_notMem _ ho, ih]
      simp

theorem filterOwners_eq_nil {derived : List String} {os : List Object}
    (h : ∀ o ∈ os, o.name ∈ derived) : filterOwners derived os = [] := by
  induction os with
  | nil => rfl
  | cons o rest ih =>
    rw [filterOwners_cons_of_mem rest (h o (List.mem_cons_self ..))]
    exact ih fun x hx => h x (List.mem_cons_of_mem _ hx)

/-- **Without objects named like filters of others, every object is an owner.** -/
theorem filterOwners_eq_self {derived : List String} {os : List Object}
    (hd : ∀ o ∈ os, o.name ∉ derived)
    (hos : ∀ x ∈ os, ∀ y ∈ os, x.name ∉ Standard.filterNames y.name) :
    filterOwners derived os = os := by
  induction os generalizing derived with
  | nil => rfl
  | cons o rest ih =>
    rw [filterOwners_cons_of_notMem rest (hd o (List.mem_cons_self ..))]
    refine congrArg (o :: ·) (ih (fun x hx => ?_) fun x hx y hy =>
      hos x (List.mem_cons_of_mem _ hx) y (List.mem_cons_of_mem _ hy))
    rw [List.mem_append, not_or]
    exact ⟨hos x (List.mem_cons_of_mem _ hx) o (List.mem_cons_self ..),
      hd x (List.mem_cons_of_mem _ hx)⟩

/-- An object that is named like no filter, neither one derived before nor one of the list, is an
owner. -/
theorem mem_filterOwners {derived : List String} {os : List Object} {x : Object} (hx : x ∈ os)
    (hd : x.name ∉ derived) (hos : ∀ y ∈ os, x.name ∉ Standard.filterNames y.name) :
    x ∈ filterOwners derived os := by
  induction os generalizing derived with
  | nil => cases hx
  | cons o rest ih =>
    have hrest : ∀ y ∈ rest, x.name ∉ Standard.filterNames y.name := fun y hy =>
      hos y (List.mem_cons_of_mem _ hy)
    rcases List.mem_cons.mp hx with rfl | hx
    · rw [filterOwners_cons_of_notMem rest hd]
      exact List.mem_cons_self ..
    · by_cases ho : o.name ∈ derived
      · rw [filterOwners_cons_of_mem rest ho]
        exact ih hx hd hrest
      · rw [filterOwners_cons_of_notMem rest ho]
        refine List.mem_cons_of_mem _ (ih hx ?_ hrest)
        rw [List.mem_append, not_or]
        exact ⟨hos o (List.mem_cons_self ..), hd⟩

/-! ## The filters that are added -/

theorem Condition.objectName_mem_filterNames (k : Condition) (object : String) :
    k.objectName object ∈ Standard.filterNames object := by
  rw [k.objectName_eq, Standard.mem_filterNames]
  exact ⟨"Filter" ++ k.word, by cases k <;> decide, rfl⟩

/-- A filter for one kind of condition has the names of the fields that the condition applies to. -/
theorem Condition.fieldNames_build (k : Condition) (o : Object) :
    (k.build o).fieldNames = (o.fields.filter fun f => k.applies f).map (·.name) := by
  rw [Object.fieldNames, build, List.map_map]
  rfl

/-- A field of a filter holds a built-in value, a value of a field of the object, or another filter
of the object. -/
theorem Object.type_of_mem_filters {o x : Object} (hx : x ∈ o.filters) {f : Field}
    (hf : f ∈ x.fields) :
    (∃ p, f.type = .primitive p) ∨ (∃ g ∈ o.fields, f.type = g.type) ∨
      ∃ n ∈ Standard.filterNames o.name, f.type = .object n := by
  rcases List.mem_cons.mp hx with rfl | hx
  · rcases List.mem_append.mp hf with hf | hf
    · obtain ⟨k, -, hf⟩ := List.mem_flatMap.mp hf
      obtain ⟨p, -, rfl⟩ := List.mem_map.mp hf
      exact .inr (.inr ⟨_, k.objectName_mem_filterNames o.name, rfl⟩)
    · rcases List.mem_cons.mp hf with rfl | hf
      · exact .inl ⟨_, rfl⟩
      · obtain rfl := List.mem_singleton.mp hf
        exact .inr (.inr ⟨_, List.mem_cons_self .., rfl⟩)
  · obtain ⟨k, -, rfl⟩ := List.mem_map.mp hx
    obtain ⟨g, hg, rfl⟩ := List.mem_map.mp hf
    cases k with
    | null => exact .inl ⟨_, rfl⟩
    | _ => exact .inr (.inl ⟨g, (List.mem_filter.mp hg).1, rfl⟩)

theorem mem_names_freshFilters {taken : List String} {o : Object} {n : String} :
    n ∈ (o.filters.filter fun f => !taken.contains f.name).map (·.name) ↔
      n ∈ Standard.filterNames o.name ∧ n ∉ taken := by
  rw [← Object.name_filters]
  simp only [List.mem_map, List.mem_filter, Bool.not_eq_true', List.contains_eq_mem,
    decide_eq_false_iff_not]
  constructor
  · rintro ⟨f, ⟨hf, ht⟩, rfl⟩
    exact ⟨⟨f, hf, rfl⟩, ht⟩
  · rintro ⟨⟨f, hf, rfl⟩, ht⟩
    exact ⟨f, ⟨hf, ht⟩, rfl⟩

/-- The names that are added: the filter names of owners, but for those taken. -/
theorem mem_names_missingFilters {taken derived : List String} {os : List Object} {n : String} :
    n ∈ (missingFilters taken derived os).map (·.name) ↔
      n ∉ taken ∧ ∃ o ∈ filterOwners derived os, n ∈ Standard.filterNames o.name := by
  induction os generalizing taken derived with
  | nil => simp [missingFilters, filterOwners]
  | cons o rest ih =>
    by_cases ho : o.name ∈ derived
    · rw [missingFilters, if_pos (List.contains_iff_mem.mpr ho), filterOwners_cons_of_mem rest ho]
      exact ih
    · rw [missingFilters, if_neg (by simpa using ho), filterOwners_cons_of_notMem rest ho]
      simp only [List.map_append, List.mem_append, ih, mem_names_freshFilters]
      by_cases hn : n ∈ Standard.filterNames o.name <;> simp [hn]

/-- Only filters of owners are added. -/
theorem exists_owner_of_mem_missingFilters {taken derived : List String} {os : List Object}
    {x : Object} (h : x ∈ missingFilters taken derived os) :
    ∃ o ∈ filterOwners derived os, x ∈ o.filters := by
  induction os generalizing taken derived with
  | nil => simp [missingFilters] at h
  | cons o rest ih =>
    by_cases ho : o.name ∈ derived
    · rw [missingFilters, if_pos (List.contains_iff_mem.mpr ho)] at h
      rw [filterOwners_cons_of_mem rest ho]
      exact ih h
    · rw [missingFilters, if_neg (by simpa using ho)] at h
      rw [filterOwners_cons_of_notMem rest ho]
      rcases List.mem_append.mp h with h | h
      · exact ⟨o, List.mem_cons_self .., (List.mem_filter.mp h).1⟩
      · obtain ⟨y, hy, hx⟩ := ih h
        exact ⟨y, List.mem_cons_of_mem _ hy, hx⟩

theorem Object.name_mem_filterNames {o f : Object} (hf : f ∈ o.filters) :
    f.name ∈ Standard.filterNames o.name := by
  rw [← o.name_filters]
  exact List.mem_map_of_mem hf

/-- The filters of an object have distinct names. -/
theorem Object.eq_of_mem_filters {o f g : Object} (hf : f ∈ o.filters) (hg : g ∈ o.filters)
    (hn : f.name = g.name) : f = g := by
  have hnodup : (o.filters.map (·.name)).Nodup := by
    rw [o.name_filters]
    exact Standard.nodup_filterNames o.name
  exact List.inj_on_of_nodup_map hnodup hf hg hn

/-- **Every filter of an owner is added unless its name is taken**, if the objects have distinct
names. -/
theorem mem_missingFilters {taken derived : List String} {os : List Object}
    (hos : (os.map (·.name)).Nodup) {o f : Object} (ho : o ∈ filterOwners derived os)
    (hf : f ∈ o.filters) (ht : f.name ∉ taken) : f ∈ missingFilters taken derived os := by
  have hname := Object.name_mem_filterNames hf
  obtain ⟨g, hg, hgn⟩ := List.mem_map.mp (mem_names_missingFilters.mpr ⟨ht, o, ho, hname⟩)
  -- what is added under this name is a filter of an owner, and only `o` has this filter name
  obtain ⟨x, hx, hgx⟩ := exists_owner_of_mem_missingFilters hg
  have hxo : x.name = o.name :=
    Standard.eq_of_mem_filterNames (Object.name_mem_filterNames hgx) (hgn ▸ hname)
  obtain rfl : x = o :=
    List.inj_on_of_nodup_map hos (mem_of_mem_filterOwners hx) (mem_of_mem_filterOwners ho) hxo
  obtain rfl : g = f := Object.eq_of_mem_filters hgx hf hgn
  exact hg

/-- The filters that are added have distinct names. -/
theorem nodup_names_missingFilters (taken derived : List String) (os : List Object) :
    ((missingFilters taken derived os).map (·.name)).Nodup := by
  induction os generalizing taken derived with
  | nil => exact List.nodup_nil
  | cons o rest ih =>
    rw [missingFilters]
    split
    · exact ih taken derived
    · rw [List.map_append, List.nodup_append]
      refine ⟨?_, ih _ _, ?_⟩
      · have hsub := (List.filter_sublist (l := o.filters)
          (p := fun f => !taken.contains f.name)).map (·.name)
        rw [o.name_filters] at hsub
        exact (Standard.nodup_filterNames o.name).sublist hsub
      · -- the rest is added with the names of this owner's filters taken
        rintro n hn _ hr rfl
        have hfree := (mem_names_missingFilters.mp hr).1
        exact hfree (List.mem_append_left _ hn)

theorem missingFilters_eq_nil {taken derived : List String} {os : List Object}
    (h : ∀ o ∈ filterOwners derived os, ∀ n ∈ Standard.filterNames o.name, n ∈ taken) :
    missingFilters taken derived os = [] := by
  rw [← List.map_eq_nil_iff (f := Object.name), List.eq_nil_iff_forall_not_mem]
  intro n hn
  obtain ⟨ht, o, ho, hno⟩ := mem_names_missingFilters.mp hn
  exact ht (h o ho n hno)

namespace Service

/-- **What the check of filter names reports**: what stands under a filter name of an object without
being the filter of that object. -/
theorem mem_filterNameViolations_iff {s : Service} {v : ValidationError} :
    v ∈ s.filterNameViolations ↔
      ∃ o ∈ s.objects, ∃ f ∈ o.filters, ∃ y, s.findObject? f.name = some y ∧ y ≠ f ∧
        v = .filterNameClash f.name o.name := by
  simp only [filterNameViolations, List.mem_flatMap, List.mem_filterMap]
  refine exists_congr fun o => and_congr_right fun _ => exists_congr fun f =>
    and_congr_right fun _ => ?_
  cases s.findObject? f.name with
  | none => simp
  | some y =>
    by_cases h : y = f
    · simp [h]
    · simp [h, eq_comm (b := v)]

/-- **What the check of filter names accepts**: whatever stands under a filter name of an object is
the filter of that object. -/
theorem filterNameViolations_eq_nil_iff {s : Service} :
    s.filterNameViolations = [] ↔
      ∀ o ∈ s.objects, ∀ f ∈ o.filters, ∀ y, s.findObject? f.name = some y → y = f := by
  simp only [filterNameViolations, List.flatMap_eq_nil_iff, List.filterMap_eq_nil_iff]
  refine forall₂_congr fun o _ => forall₂_congr fun f _ => ?_
  cases s.findObject? f.name <;> simp

@[simp] theorem enums_withFilters (s : Service) : s.withFilters.enums = s.enums := rfl

@[simp] theorem enumNames_withFilters (s : Service) : s.withFilters.enumNames = s.enumNames := rfl

@[simp] theorem resources_withFilters (s : Service) : s.withFilters.resources = s.resources := rfl

@[simp] theorem endpoints_withFilters (s : Service) : s.withFilters.endpoints = s.endpoints := rfl

/-- **The names of a service with filters**: those of its objects, and the filter names of the
owners among them. -/
theorem mem_objectNames_withFilters {s : Service} {n : String} :
    n ∈ s.withFilters.objectNames ↔
      n ∈ s.objectNames ∨ ∃ o ∈ s.filterOwners, n ∈ Standard.filterNames o.name := by
  rw [objectNames, withFilters, List.map_append, List.mem_append, mem_names_missingFilters]
  change n ∈ s.objectNames ∨ _ ↔ _
  by_cases hn : n ∈ s.objectNames <;> simp [hn, filterOwners]

theorem objectNames_subset_withFilters {s : Service} {n : String} (h : n ∈ s.objectNames) :
    n ∈ s.withFilters.objectNames :=
  mem_objectNames_withFilters.mpr (.inl h)

/-- Filters keep the names of the objects distinct. -/
theorem nodup_objectNames_withFilters {s : Service} (h : s.objectNames.Nodup) :
    s.withFilters.objectNames.Nodup := by
  rw [objectNames, withFilters, List.map_append, List.nodup_append]
  refine ⟨h, nodup_names_missingFilters _ _ _, ?_⟩
  rintro n hn _ hm rfl
  exact (mem_names_missingFilters.mp hm).1 hn

/-- The filters that are added are no owners: they are named like filters of an object before. -/
theorem filterOwners_withFilters (s : Service) : s.withFilters.filterOwners = s.filterOwners := by
  rw [filterOwners, withFilters, filterOwners_append]
  refine (congrArg (_ ++ ·) (filterOwners_eq_nil fun x hx => ?_)).trans (List.append_nil _)
  obtain ⟨-, o, ho, hn⟩ := mem_names_missingFilters.mp (List.mem_map_of_mem hx)
  exact List.mem_append_left _ (List.mem_flatMap.mpr ⟨o, List.mem_reverse.mpr ho, hn⟩)

/-- **Filters are added once.** -/
theorem withFilters_withFilters (s : Service) : s.withFilters.withFilters = s.withFilters := by
  -- the owners are the same, and every filter name of theirs is taken by now
  have hnil : missingFilters s.withFilters.objectNames [] s.withFilters.objects = [] := by
    refine missingFilters_eq_nil fun o ho n hn => mem_objectNames_withFilters.mpr (.inr ⟨o, ?_, hn⟩)
    rwa [← filterOwners_withFilters]
  rw [withFilters.eq_def s.withFilters, hnil, List.append_nil]

end Service

end ServiceSpec
