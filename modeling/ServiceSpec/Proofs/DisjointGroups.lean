import ServiceSpec.Proofs.FilterGroups

/-!
# Filter groups do not overlap

The name of a filter is the name of its object with a suffix glued to it, and nothing keeps an
object from having such a name itself.  All the same a name is a filter name in one way only, as no
suffix ends in another one.  So the filters of two objects cannot get in each other's way.

Filters are added under the rule that the first one to come has the name.  If the groups overlapped,
an object could lose a filter to another one, and it would depend on their order which of them.  As
they do not, the names that are taken on the way do not matter, only those that the service has at
the start: each object that gets filters gets its whole group, less what the service declares.

## Main results

* `missingFilters_eq_flatMap`: the filters that are added, group by group
* `Service.filterGroups_disjoint`: a filter is left out only if the service declares its name
-/

namespace ServiceSpec

variable {taken derived : List String} {os : List Object} {o : Object}

/-- An object gets filters, unless it is named like one that was derived before or like one of an
object that gets filters. -/
theorem mem_filterOwners_or (ho : o ∈ os) :
    o ∈ filterOwners derived os ∨ o.name ∈ derived ∨
      ∃ y ∈ filterOwners derived os, o.name ∈ Standard.filterNames y.name := by
  induction os generalizing derived with
  | nil => cases ho
  | cons x rest ih =>
    by_cases hx : x.name ∈ derived
    · rw [filterOwners_cons_of_mem rest hx]
      rcases List.mem_cons.mp ho with rfl | ho
      · exact .inr (.inl hx)
      · exact ih ho
    · rw [filterOwners_cons_of_notMem rest hx]
      rcases List.mem_cons.mp ho with rfl | ho
      · exact .inl (List.mem_cons_self ..)
      · rcases ih ho with howner | hnamed | ⟨y, hy, hname⟩
        · exact .inl (List.mem_cons_of_mem _ howner)
        · rcases List.mem_append.mp hnamed with hname | hnamed
          · exact .inr (.inr ⟨x, List.mem_cons_self .., hname⟩)
          · exact .inr (.inl hnamed)
        · exact .inr (.inr ⟨y, List.mem_cons_of_mem _ hy, hname⟩)

/-- The filters that one object adds do not stand in the way of another one. -/
theorem contains_names_freshFilters {x f : Object} (hne : o.name ≠ x.name) (hf : f ∈ x.filters) :
    (((o.filters.filter fun g => !taken.contains g.name).map (·.name)) ++ taken).contains f.name =
      taken.contains f.name := by
  have hfresh : f.name ∉ (o.filters.filter fun g => !taken.contains g.name).map (·.name) := by
    intro hmem
    obtain ⟨hname, -⟩ := mem_names_freshFilters.mp hmem
    exact hne (Standard.eq_of_mem_filterNames hname (Object.name_mem_filterNames hf))
  rw [List.contains_eq_mem, List.contains_eq_mem, decide_eq_decide, List.mem_append,
    or_iff_right hfresh]

/-- **The filters that are added, group by group**: of each object that gets filters, those whose
names are not taken at the start. -/
theorem missingFilters_eq_flatMap (hos : (os.map (·.name)).Nodup) :
    missingFilters taken derived os = (filterOwners derived os).flatMap fun o =>
      o.filters.filter fun f => !taken.contains f.name := by
  induction os generalizing taken derived with
  | nil => rfl
  | cons o rest ih =>
    obtain ⟨hfirst, hrest⟩ := List.nodup_cons.mp hos
    by_cases ho : o.name ∈ derived
    · rw [missingFilters, if_pos (List.contains_iff_mem.mpr ho), filterOwners_cons_of_mem rest ho]
      exact ih hrest
    · rw [missingFilters, if_neg (by simpa using ho), filterOwners_cons_of_notMem rest ho,
        List.flatMap_cons]
      show (o.filters.filter fun g => !taken.contains g.name) ++ missingFilters _ _ rest = _
      rw [ih hrest]
      -- the later objects find names taken that they do not ask for
      refine congrArg (_ ++ ·) (List.flatMap_congr fun x hx => List.filter_congr fun f hf => ?_)
      have hne : o.name ≠ x.name := by
        intro hname
        exact hfirst (List.mem_map.mpr ⟨x, mem_of_mem_filterOwners hx, hname.symm⟩)
      rw [contains_names_freshFilters hne hf]

/-- **Filter groups never overlap.**  A filter name determines its object and its suffix, and it is
not the name of an error object.  So if the objects of a service have distinct names, each of them
that is not named like a filter of another one gets its whole group, and a filter of it is left out
only if the service declares an object of that name. -/
theorem Service.filterGroups_disjoint :
    (∀ x y : String, ∀ a ∈ Standard.filterSuffixes, ∀ b ∈ Standard.filterSuffixes,
      x ++ a = y ++ b → x = y ∧ a = b) ∧
    (∀ x y : String, Standard.requestErrorName x ∉ Standard.filterNames y) ∧
    ∀ s : Service, s.objectNames.Nodup →
      (∀ o ∈ s.objects, o ∈ s.filterOwners ∨
        ∃ y ∈ s.filterOwners, o.name ∈ Standard.filterNames y.name) ∧
      ∃ added, s.withFilters = { s with objects := s.objects ++ added } ∧
        (added = s.filterOwners.flatMap fun o => o.filters.filter (·.name ∉ s.objectNames)) ∧
        ∀ o ∈ s.filterOwners, ∀ f ∈ o.filters, f ∉ added → ∃ x ∈ s.objects, x.name = f.name := by
  refine ⟨?_, Standard.requestErrorName_notMem_filterNames, ?_⟩
  · intro x y a ha b hb h
    exact Standard.append_derivedSuffix_inj (Standard.mem_derivedSuffixes_of_filter ha)
      (Standard.mem_derivedSuffixes_of_filter hb) h
  · intro s hn
    refine ⟨?_, missingFilters s.objectNames [] s.objects, rfl, ?_, ?_⟩
    · intro o ho
      rcases mem_filterOwners_or ho with howner | hnil | hnamed
      · exact .inl howner
      · cases hnil
      · exact .inr hnamed
    · rw [missingFilters_eq_flatMap hn]
      simp [filterOwners]
    · intro o ho f hf hleft
      by_contra hnone
      have hfree : f.name ∉ s.objectNames := by
        intro hmem
        obtain ⟨x, hx, hname⟩ := List.mem_map.mp hmem
        exact hnone ⟨x, hx, hname⟩
      exact hleft (mem_missingFilters hn ho hf hfree)

/-- A service that declares something else in the place of a filter, and an object that would be
named like a filter of that filter. -/
def stock : Service where
  name := "Stock"
  objects :=
    [{ name := "Item", fields := [{ name := "count", type := .primitive .int }] },
     { name := "ItemFilter", fields := [{ name := "mesh", type := .primitive .int }] },
     { name := "ItemFilterFilter" }]

/-- The first and the last object get filters.  One of the first is left out, as it is declared. -/
theorem filterGroups_disjoint_stock :
    stock.objectNames.Nodup ∧
      stock.filterOwners.map (·.name) = ["Item", "ItemFilterFilter"] ∧
      stock.withFilters.objects.length = 3 + 5 + 6 ∧
      (combinedFilter "Item" ∉ stock.withFilters.objects ∧
        ∃ x ∈ stock.objects, x.name = "ItemFilter") := by
  have hn : stock.objectNames.Nodup := by decide
  have hleft : combinedFilter "Item" ∉ stock.withFilters.objects := by decide +kernel
  refine ⟨hn, by decide +kernel, by decide +kernel, hleft, ?_⟩
  obtain ⟨-, -, hservice⟩ := Service.filterGroups_disjoint
  obtain ⟨-, added, hadded, -, hdeclared⟩ := hservice stock hn
  refine hdeclared { name := "Item", fields := [{ name := "count", type := .primitive .int }] }
    (by decide +kernel) (combinedFilter "Item") (List.mem_cons_self ..) fun hmem => hleft ?_
  rw [hadded]
  exact List.mem_append_right _ hmem

end ServiceSpec
