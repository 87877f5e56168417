import ServiceSpec.Expansion.Filters

/-!
# Derived names

Expansion makes names of new objects by appending a suffix to the name of what they are made for.
No suffix ends in another one, so a derived name determines both its subject and its suffix: the
filters of two objects never share a name, and no request error object is named like a filter.

## Main definitions

* `derivedSuffixes`: every suffix that expansion appends

## Main results

* `append_derivedSuffix_inj`: a derived name determines its subject and its suffix
* `eq_of_mem_filterNames`: the filter names of two objects are disjoint
* `requestErrorName_notMem_filterNames`: request error names are not filter names
-/

namespace ServiceSpec

namespace Standard

/-- What expansion appends to a name to derive another one. -/
def derivedSuffixes : List String :=
  requestErrorSuffix :: filterSuffixes

theorem eq_of_derivedSuffix_suffix :
    ∀ a ∈ derivedSuffixes, ∀ b ∈ derivedSuffixes, a.toList <:+ b.toList → a = b := by
  decide

/-- **A derived name determines its subject and its suffix.** -/
theorem append_derivedSuffix_inj {x y a b : String} (ha : a ∈ derivedSuffixes)
    (hb : b ∈ derivedSuffixes) (h : x ++ a = y ++ b) : x = y ∧ a = b := by
  have hl : x.toList ++ a.toList = y.toList ++ b.toList := by
    simpa only [String.toList_append] using congrArg String.toList h
  have hab : a = b := by
    -- both suffixes end the same text, so one of them ends the other
    rcases List.suffix_or_suffix_of_suffix (List.suffix_append x.toList a.toList)
        (hl ▸ List.suffix_append y.toList b.toList) with hs | hs
    · exact eq_of_derivedSuffix_suffix a ha b hb hs
    · exact (eq_of_derivedSuffix_suffix b hb a ha hs).symm
  subst hab
  exact ⟨(String.append_left_inj a).mp h, rfl⟩

theorem requestErrorName_injective {x y : String}
    (h : requestErrorName x = requestErrorName y) : x = y :=
  (String.append_left_inj _).mp h

theorem mem_filterNames {n x : String} : n ∈ filterNames x ↔ ∃ a ∈ filterSuffixes, x ++ a = n :=
  List.mem_map

theorem mem_derivedSuffixes_of_filter {a : String} (ha : a ∈ filterSuffixes) :
    a ∈ derivedSuffixes :=
  List.mem_cons_of_mem _ ha

/-- The filter names of two objects are disjoint. -/
theorem eq_of_mem_filterNames {n x y : String} (hx : n ∈ filterNames x)
    (hy : n ∈ filterNames y) : x = y := by
  obtain ⟨a, ha, rfl⟩ := mem_filterNames.mp hx
  obtain ⟨b, hb, h⟩ := mem_filterNames.mp hy
  exact ((append_derivedSuffix_inj (mem_derivedSuffixes_of_filter hb)
    (mem_derivedSuffixes_of_filter ha) h).1).symm

/-- No request error object is named like a filter. -/
theorem requestErrorName_notMem_filterNames (x y : String) :
    requestErrorName x ∉ filterNames y := by
  intro h
  obtain ⟨a, ha, h⟩ := mem_filterNames.mp h
  have hs := (append_derivedSuffix_inj (mem_derivedSuffixes_of_filter ha)
    (List.mem_cons_self ..) h).2
  subst hs
  exact absurd ha (by decide)

/-- An object is not named like one of its own filters. -/
theorem notMem_filterNames_self (x : String) : x ∉ filterNames x := by
  intro h
  obtain ⟨a, ha, h⟩ := mem_filterNames.mp h
  obtain rfl : a = "" := (String.append_right_inj x).mp (h.trans String.append_empty.symm)
  exact absurd ha (by decide)

/-- The six filter names of an object are distinct. -/
theorem nodup_filterNames (x : String) : (filterNames x).Nodup := by
  have hsuffixes : filterSuffixes.Nodup := by decide
  refine List.Pairwise.map _ (fun a b hne heq => hne ?_) hsuffixes
  exact (String.append_right_inj x).mp heq

/-- The names of standard entities end in no suffix of a derived name. -/
theorem ne_append_derivedSuffix {n x a : String} (hn : n ∈ enums ++ objects)
    (ha : a ∈ derivedSuffixes) : n ≠ x ++ a := by
  rintro rfl
  have hends : a.toList <:+ (x ++ a).toList := by
    rw [String.toList_append]
    exact List.suffix_append ..
  have hfree : ∀ n ∈ enums ++ objects, ∀ a ∈ derivedSuffixes, ¬ a.toList <:+ n.toList := by decide
  exact hfree _ hn a ha hends

/-- Standard entities are named like no filter. -/
theorem notMem_filterNames {n : String} (hn : n ∈ enums ++ objects) (x : String) :
    n ∉ filterNames x := by
  intro h
  obtain ⟨a, ha, heq⟩ := mem_filterNames.mp h
  exact ne_append_derivedSuffix hn (mem_derivedSuffixes_of_filter ha) heq.symm

end Standard

/-! ## Names of filter objects -/

theorem Condition.objectName_eq (k : Condition) (object : String) :
    k.objectName object = object ++ ("Filter" ++ k.word) :=
  String.append_assoc

/-- The filters of an object stand under its filter names. -/
@[simp] theorem Object.name_filters (o : Object) :
    o.filters.map (·.name) = Standard.filterNames o.name := by
  simp [filters, combinedFilter, Condition.all, Condition.build, Condition.objectName_eq,
    Standard.filterNames, Standard.filterSuffixes, Standard.filterName, Condition.word]

end ServiceSpec
