import ServiceSpec.Proofs.BaseExpansion
import ServiceSpec.Proofs.FilterGroups

/-!
# Adding filters to any service

Filters can be added to a service that validation would refuse.  Its objects may share names, they
may be named like filters of each other, and in any order.  Two things are remembered on the way
through the objects: the names that are taken, so that nothing is added under a name twice, and the
filter names of the objects passed so far, so that a filter is not taken for an object that needs
filters of its own.  What comes of it is the service with objects appended, and a second pass finds
nothing to do.

The check of filter names does not share the second memory.  It asks of every object, filters
included, whether something else stands in the place of one of its filters.  Before filters are
added this makes no difference.  Afterwards the filters that were added are asked as well, and an
object of the service may stand in the place of a filter of such a filter.  That filter is never
made, so nothing is replaced, and yet the outcome of adding filters does not pass a check that the
service has passed.

## Main definitions

* `Service.Unstacked`: no object stands in the place of a filter of a filter that is missing

## Main results

* `filterOwners_concat`: which objects are passed over
* `withFilters_appends`: what adding filters does to any service
* `mem_filterNameViolations_withFilters_iff`: what the check reports once filters are added
* `checkFilterNames_withFilters_iff`: when the outcome passes the check that the service passes
-/

namespace ServiceSpec

variable {x : Object} {pre : List Object}

/-! ## Objects that are passed over -/

/-- The object is named like a filter of an object before it that is not passed over itself. -/
def NamedBy (pre : List Object) (x : Object) : Prop :=
  ∃ y ∈ filterOwners [] pre, x.name ∈ Standard.filterNames y.name

instance (pre : List Object) (x : Object) : Decidable (NamedBy pre x) :=
  inferInstanceAs (Decidable (∃ y ∈ filterOwners [] pre, x.name ∈ Standard.filterNames y.name))

/-- **Which objects are passed over**: those named like a filter of an object before them that is
not passed over. -/
theorem filterOwners_concat (pre : List Object) (x : Object) :
    filterOwners [] (pre ++ [x]) =
      filterOwners [] pre ++ if NamedBy pre x then [] else [x] := by
  have hderived : x.name ∈ ((filterOwners [] pre).reverse.flatMap fun o =>
      Standard.filterNames o.name) ++ [] ↔ NamedBy pre x := by
    simp only [List.append_nil, List.mem_flatMap, List.mem_reverse, NamedBy]
  rw [filterOwners_append]
  by_cases h : NamedBy pre x
  · rw [filterOwners_cons_of_mem [] (hderived.mpr h), if_pos h]
    rfl
  · rw [filterOwners_cons_of_notMem [] (mt hderived.mp h), if_neg h]
    rfl

/-- An object that is not passed over gets filters, whatever stands after it. -/
theorem mem_filterOwners_of_split (post : List Object) (h : ¬ NamedBy pre x) :
    x ∈ filterOwners [] (pre ++ x :: post) := by
  rw [← List.singleton_append, ← List.append_assoc, filterOwners_append, filterOwners_concat,
    if_neg h]
  simp

namespace Service

variable {s : Service} {o f : Object} {v : ValidationError}

/-- **What adding filters does to any service.**  Objects are appended, each a filter of an object
that is not passed over, with names that are distinct and new.  For every object of the service that
is not passed over, all six filter names are there.  Adding filters again changes nothing. -/
theorem withFilters_appends (s : Service) :
    (∃ added, s.withFilters = { s with objects := s.objects ++ added } ∧
      (added.map (·.name)).Nodup ∧
      ∀ f ∈ added, f.name ∉ s.objectNames ∧ ∃ o ∈ s.filterOwners, f ∈ o.filters) ∧
    (∀ pre x post, s.objects = pre ++ x :: post →
      (∃ y ∈ ServiceSpec.filterOwners [] pre, x.name ∈ Standard.filterNames y.name) ∨
        ∀ n ∈ Standard.filterNames x.name, n ∈ s.withFilters.objectNames) ∧
    s.withFilters.withFilters = s.withFilters := by
  refine ⟨⟨missingFilters s.objectNames [] s.objects, rfl, ?_, ?_⟩, ?_, ?_⟩
  · exact nodup_names_missingFilters s.objectNames [] s.objects
  · intro f hf
    have hfree := (mem_names_missingFilters.mp (List.mem_map_of_mem hf)).1
    exact ⟨hfree, exists_owner_of_mem_missingFilters hf⟩
  · intro pre x post hsplit
    by_cases h : NamedBy pre x
    · exact .inl h
    · right
      intro n hn
      have howner : x ∈ s.filterOwners := by
        rw [filterOwners, hsplit]
        exact mem_filterOwners_of_split post h
      exact mem_objectNames_withFilters.mpr (.inr ⟨x, howner, hn⟩)
  · exact withFilters_withFilters s

/-! ## The check of the outcome -/

/-- An object of the outcome was there, or is a filter that was missing. -/
theorem mem_objects_withFilters_iff (hn : s.objectNames.Nodup) :
    x ∈ s.withFilters.objects ↔
      x ∈ s.objects ∨ ∃ o ∈ s.filterOwners, x ∈ o.filters ∧ x.name ∉ s.objectNames := by
  rw [withFilters, List.mem_append]
  refine or_congr_right ⟨fun hx => ?_, ?_⟩
  · obtain ⟨o, ho, hxo⟩ := exists_owner_of_mem_missingFilters hx
    exact ⟨o, ho, hxo, (mem_names_missingFilters.mp (List.mem_map_of_mem hx)).1⟩
  · rintro ⟨o, ho, hxo, hfree⟩
    exact mem_missingFilters hn ho hxo hfree

/-- A filter that was added stands in the place of no other filter. -/
theorem eq_of_added (hn : s.objectNames.Nodup) {y : Object} (hy : y ∈ s.filterOwners)
    (hx : x ∈ y.filters) (ho : o ∈ s.withFilters.objects) (hf : f ∈ o.filters)
    (hname : x.name = f.name) : x = f := by
  have hys : y ∈ s.objects := mem_of_mem_filterOwners hy
  -- both names are filter names, so they are made of the same one
  have hyo : y.name = o.name := Standard.eq_of_mem_filterNames (Object.name_mem_filterNames hx)
    (hname ▸ Object.name_mem_filterNames hf)
  rcases (mem_objects_withFilters_iff hn).mp ho with hos | ⟨-, -, -, hfree⟩
  · obtain rfl := eq_of_name_eq hn hys hos hyo
    exact Object.eq_of_mem_filters hx hf hname
  · exact absurd (hyo ▸ List.mem_map_of_mem hys) hfree

/-- **What the check reports once filters are added**, if it reported nothing before: objects of the
service in the place of a filter of a filter that was added. -/
theorem mem_filterNameViolations_withFilters_iff (hn : s.objectNames.Nodup)
    (hc : s.filterNameViolations = []) :
    v ∈ s.withFilters.filterNameViolations ↔
      ∃ o ∈ s.filterOwners, ∃ g ∈ o.filters, g.name ∉ s.objectNames ∧
        ∃ f ∈ g.filters, ∃ x ∈ s.objects, x.name = f.name ∧ x ≠ f ∧
          v = .filterNameClash f.name g.name := by
  simp only [mem_filterNameViolations_iff,
    findObject?_eq_some_iff (nodup_objectNames_withFilters hn)]
  constructor
  · rintro ⟨g, hg, f, hf, x, ⟨hx, hname⟩, hne, hv⟩
    rcases (mem_objects_withFilters_iff hn).mp hx with hxs | ⟨y, hy, hxy, -⟩
    · rcases (mem_objects_withFilters_iff hn).mp hg with hgs | ⟨o, ho, hgo, hfree⟩
      · have hfind : s.findObject? f.name = some x :=
          (findObject?_eq_some_iff hn).mpr ⟨hxs, hname⟩
        exact absurd (filterNameViolations_eq_nil_iff.mp hc g hgs f hf x hfind) hne
      · exact ⟨o, ho, g, hgo, hfree, f, hf, x, hxs, hname, hne, hv⟩
    · exact absurd (eq_of_added hn hy hxy hg hf hname) hne
  · rintro ⟨o, ho, g, hg, hfree, f, hf, x, hx, hname, hne, hv⟩
    have hadded : g ∈ s.withFilters.objects :=
      (mem_objects_withFilters_iff hn).mpr (.inr ⟨o, ho, hg, hfree⟩)
    exact ⟨g, hadded, f, hf, x, ⟨List.mem_append_left _ hx, hname⟩, hne, hv⟩

/-- No object stands in the place of a filter of a missing filter, unless it is just that. -/
def Unstacked (s : Service) : Prop :=
  ∀ o ∈ s.filterOwners, ∀ g ∈ o.filters, g.name ∉ s.objectNames →
    ∀ f ∈ g.filters, ∀ x ∈ s.objects, x.name = f.name → x = f

/-- **When the outcome passes the check that the service passes**: exactly if no object stands in
the place of a filter of a filter that is missing.  It is enough that no object has a name made of
that of another one and two filter suffixes.  All that is reported otherwise is that such an object
clashes with a filter that was added. -/
theorem checkFilterNames_withFilters_iff (hn : s.objectNames.Nodup)
    (hc : s.checkFilterNames = .ok ()) :
    (s.withFilters.checkFilterNames = .ok () ↔ s.Unstacked) ∧
    ((∀ o ∈ s.objects, ∀ n ∈ Standard.filterNames o.name, ∀ m ∈ Standard.filterNames n,
      m ∉ s.objectNames) → s.Unstacked) ∧
    ∀ v, v ∈ s.withFilters.filterNameViolations ↔
      ∃ o ∈ s.filterOwners, ∃ g ∈ o.filters, g.name ∉ s.objectNames ∧
        ∃ f ∈ g.filters, ∃ x ∈ s.objects, x.name = f.name ∧ x ≠ f ∧
          v = .filterNameClash f.name g.name := by
  have hviolations := fun v => mem_filterNameViolations_withFilters_iff (v := v) hn
    (checkFilterNames_eq_ok_iff.mp hc)
  refine ⟨?_, ?_, hviolations⟩
  · rw [checkFilterNames_eq_ok_iff, List.eq_nil_iff_forall_not_mem]
    constructor
    · intro hnone o ho g hg hfree f hf x hx hname
      by_contra hne
      exact hnone _ ((hviolations _).mpr ⟨o, ho, g, hg, hfree, f, hf, x, hx, hname, hne, rfl⟩)
    · intro hu v hv
      obtain ⟨o, ho, g, hg, hfree, f, hf, x, hx, hname, hne, -⟩ := (hviolations v).mp hv
      exact hne (hu o ho g hg hfree f hf x hx hname)
  · intro hnames o ho g hg _ f hf x hx hname
    have hmem : f.name ∈ s.objectNames := hname ▸ List.mem_map_of_mem hx
    exact absurd hmem (hnames o (mem_of_mem_filterOwners ho) g.name
      (Object.name_mem_filterNames hg) f.name (Object.name_mem_filterNames hf))

/-- A service that declares a filter of one of its objects itself. -/
def tariffs : Service where
  name := "Tariffs"
  objects :=
    [{ name := "Rate", fields := [{ name := "amount", type := .primitive .int }] },
     combinedFilter "Rate",
     { name := "Zone" }]

theorem checkFilterNames_withFilters_tariffs :
    tariffs.objectNames.Nodup ∧ tariffs.checkFilterNames = .ok () ∧
      tariffs.withFilters.objects.length = 14 ∧
      tariffs.withFilters.checkFilterNames = .ok () := by
  have hn : tariffs.objectNames.Nodup := by decide +kernel
  have hc : tariffs.checkFilterNames = .ok () :=
    checkFilterNames_of_nil (by decide +kernel)
  obtain ⟨hiff, hnames, -⟩ := checkFilterNames_withFilters_iff hn hc
  exact ⟨hn, hc, by decide +kernel, hiff.mpr (hnames (by decide +kernel))⟩

/-- A service with an object that is named like a filter of a filter of another one. -/
def pricing : Service where
  name := "Pricing"
  version := "1.0"
  objects :=
    [{ name := "Price", fields := [{ name := "amount", type := .primitive .int }] },
     { name := "PriceFilterFilter", fields := [{ name := "note", type := .primitive .string }] }]

/-- The filter that is added for the first object is asked about the second one. -/
theorem pricing_filters_clash :
    pricing.objectNames.Nodup ∧ pricing.checkFilterNames = .ok () ∧
      pricing.withFilters.checkFilterNames =
        .error [.filterNameClash "PriceFilterFilter" "PriceFilter"] := by
  have hviolations : pricing.withFilters.filterNameViolations =
      [.filterNameClash "PriceFilterFilter" "PriceFilter"] := by decide +kernel
  refine ⟨by decide +kernel, checkFilterNames_of_nil (by decide +kernel), ?_⟩
  rw [checkFilterNames_of_ne_nil (by simp [hviolations]), hviolations]

end Service

end ServiceSpec
