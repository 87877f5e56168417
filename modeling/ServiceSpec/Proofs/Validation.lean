import ServiceSpec.Proofs.Resolution
import ServiceSpec.Validation
import Mathlib.Data.List.Basic
import Mathlib.Data.List.Nodup

/-!
# What validation promises

A service without violations has distinct names within each kind of entity, and no name stands for
both an object and an enum.

## Main definitions

* `Service.WellNamed`: the names of a service are distinct within their kind, and objects and enums
  have none in common

## Main results

* `duplicates_eq_nil_iff`: no name is reported as repeated if and only if the names are distinct
* `nameViolations_eq_nil_iff`: the check of names accepts exactly the well-named services
* `violations_eq_nil_iff`: validation accepts a service if it accepts its entities and their names
* `violations_mapTypes`: violations do not depend on types
-/

namespace ServiceSpec

/-! ## Lists with distinct keys -/

section Keys

variable {α : Type} {key : α → String} {l l' : List α}

/-- An element of a list with distinct keys is found under its key. -/
theorem find?_key_eq_some_iff (h : (l.map key).Nodup) {k : String} {a : α} :
    l.find? (fun x => key x = k) = some a ↔ a ∈ l ∧ key a = k := by
  constructor
  · intro ha
    exact ⟨List.mem_of_find?_eq_some ha, by simpa using List.find?_some ha⟩
  · rintro ⟨ha, rfl⟩
    cases hfind : l.find? fun x => key x = key a with
    | none => exact absurd (decide_eq_true rfl) (List.find?_eq_none.mp hfind a ha)
    | some b =>
      have hb : key b = key a := by simpa using List.find?_some hfind
      rw [List.inj_on_of_nodup_map h (List.mem_of_find?_eq_some hfind) ha hb]

/-- What is found under a key does not depend on the order of the list. -/
theorem find?_key_perm (hp : l.Perm l') (h : (l.map key).Nodup) (k : String) :
    l.find? (fun x => key x = k) = l'.find? fun x => key x = k := by
  refine Option.ext fun a => ?_
  rw [find?_key_eq_some_iff h, find?_key_eq_some_iff ((hp.map key).nodup_iff.mp h), hp.mem_iff]

end Keys

/-! ## Names -/

/-- After distinct names, a name is reported if it was seen or is seen later again. -/
theorem duplicatesAfter_eq_nil_iff {seen names : List String} (hs : seen.Nodup) :
    duplicatesAfter seen names = [] ↔ names.Nodup ∧ ∀ n ∈ names, n ∉ seen := by
  induction names generalizing seen with
  | nil => simp [duplicatesAfter]
  | cons n rest ih =>
    rw [duplicatesAfter]
    by_cases hn : n ∈ seen
    · have hcount : seen.count n = 1 := List.count_eq_one_of_mem hs hn
      simp [hcount, hn]
    · have hcount : seen.count n ≠ 1 := by simp [List.count_eq_zero_of_not_mem hn]
      have hseen : (n :: seen).Nodup := List.nodup_cons.mpr ⟨hn, hs⟩
      rw [if_neg hcount, ih hseen, List.nodup_cons]
      simp only [List.mem_cons, not_or, forall_eq_or_imp]
      constructor
      · rintro ⟨hrest, hfree⟩
        exact ⟨⟨fun hmem => (hfree n hmem).1 rfl, hrest⟩, hn, fun m hm => (hfree m hm).2⟩
      · rintro ⟨⟨hnot, hrest⟩, -, hfree⟩
        exact ⟨hrest, fun m hm => ⟨fun heq => hnot (heq ▸ hm), hfree m hm⟩⟩

/-- **No name is reported as repeated if and only if the names are distinct.** -/
theorem duplicates_eq_nil_iff {names : List String} : duplicates names = [] ↔ names.Nodup := by
  rw [duplicates, duplicatesAfter_eq_nil_iff List.nodup_nil]
  simp

namespace Service

variable {s : Service}

/-- The names of a service are distinct within their kind, and objects and enums have none in
common. -/
structure WellNamed (s : Service) : Prop where
  enums : s.enumNames.Nodup
  objects : s.objectNames.Nodup
  resources : (s.resources.map (·.name)).Nodup
  apart : ∀ n ∈ s.enumNames, n ∉ s.objectNames

theorem mem_clashingNames {n : String} :
    n ∈ s.clashingNames ↔ n ∈ s.objectNames ∧ n ∈ s.enumNames := by
  rw [clashingNames, List.mem_eraseDups, List.mem_filter, List.contains_iff_mem]

theorem clashingNames_eq_nil_iff :
    s.clashingNames = [] ↔ ∀ n ∈ s.enumNames, n ∉ s.objectNames := by
  rw [List.eq_nil_iff_forall_not_mem]
  constructor
  · intro h n hn ho
    exact h n (mem_clashingNames.mpr ⟨ho, hn⟩)
  · intro h n hn
    obtain ⟨ho, hn⟩ := mem_clashingNames.mp hn
    exact h n hn ho

/-- **The check of names accepts exactly the well-named services.** -/
theorem nameViolations_eq_nil_iff : s.nameViolations = [] ↔ s.WellNamed := by
  rw [nameViolations]
  simp only [List.append_eq_nil_iff, List.map_eq_nil_iff, duplicates_eq_nil_iff,
    clashingNames_eq_nil_iff]
  constructor
  · rintro ⟨⟨⟨he, ho⟩, hr⟩, ha⟩
    exact ⟨he, ho, hr, ha⟩
  · intro h
    exact ⟨⟨⟨h.enums, h.objects⟩, h.resources⟩, h.apart⟩

/-- A service has no violations if its entities have none and it is well-named. -/
theorem violations_eq_nil_iff :
    s.violations = [] ↔
      (∀ x ∈ s.enums, x.violations = []) ∧ (∀ o ∈ s.objects, o.violations = []) ∧
        (∀ r ∈ s.resources, r.violations = []) ∧ s.WellNamed := by
  rw [violations, List.append_eq_nil_iff, List.append_eq_nil_iff, List.append_eq_nil_iff,
    List.flatMap_eq_nil_iff, List.flatMap_eq_nil_iff, List.flatMap_eq_nil_iff,
    nameViolations_eq_nil_iff, and_assoc, and_assoc]

theorem wellNamed_of_violations (h : s.violations = []) : s.WellNamed :=
  (violations_eq_nil_iff.mp h).2.2.2

end Service

/-! ## Changes of types -/

theorem Object.violations_mapLocatedFields {g : Location → Field → Field}
    (hg : ∀ l f, (g l f).name = f.name) (o : Object) :
    (o.mapLocatedFields g).violations = o.violations := by
  have hnames : (o.mapLocatedFields g).fieldNames = o.fieldNames := by
    simp [fieldNames, mapLocatedFields, hg]
  have hblank : ((o.mapLocatedFields g).fields.filter fun f => Text.isBlank f.name).map
      (fun _ => ValidationError.emptyName (.objectFields o.name)) =
        (o.fields.filter fun f => Text.isBlank f.name).map
          fun _ => .emptyName (.objectFields o.name) := by
    simp [mapLocatedFields, List.filter_map, Function.comp_def, hg]
  rw [violations, hnames, show (o.mapLocatedFields g).name = o.name from rfl, hblank]
  rfl

theorem Resource.violations_mapLocatedFields {g : Location → Field → Field}
    (hg : ∀ l f, (g l f).name = f.name) (r : Resource) :
    (r.mapLocatedFields g).violations = r.violations := by
  have hfields : (r.mapLocatedFields g).fields.flatMap (r.mapLocatedFields g).fieldViolations =
      r.fields.flatMap r.fieldViolations := by
    rw [mapLocatedFields, List.flatMap_map]
    refine congrArg List.flatten (List.map_congr_left fun c _ => ?_)
    simp only [fieldViolations, ResourceField.name, hg]
    rfl
  have hendpoints : (r.mapLocatedFields g).endpoints.flatMap
      (r.mapLocatedFields g).endpointViolations = r.endpoints.flatMap r.endpointViolations := by
    rw [mapLocatedFields, List.flatMap_map]
    refine congrArg List.flatten (List.map_congr_left fun e _ => ?_)
    simp only [endpointViolations, Endpoint.mapFields, List.isEmpty_map]
    rfl
  have hcolumns : (r.mapLocatedFields g).fields.map (·.name) = r.fields.map (·.name) := by
    simp [mapLocatedFields, ResourceField.name, hg]
  have hnames : (r.mapLocatedFields g).endpoints.map (·.name) = r.endpoints.map (·.name) := by
    simp [mapLocatedFields, Endpoint.mapFields]
  rw [violations, hfields, hendpoints, hcolumns, hnames]
  rfl

namespace Service

/-- Violations do not depend on types. -/
theorem violations_mapTypes (g : TypeRef → TypeRef) (s : Service) :
    (s.mapTypes g).violations = s.violations := by
  have hobjects : (s.mapTypes g).objects.flatMap Object.violations =
      s.objects.flatMap Object.violations := by
    rw [objects_mapTypes, List.flatMap_map]
    refine congrArg List.flatten (List.map_congr_left fun o _ => ?_)
    apply Object.violations_mapLocatedFields
    exact fun _ _ => rfl
  have hresources : (s.mapTypes g).resources.flatMap Resource.violations =
      s.resources.flatMap Resource.violations := by
    rw [resources_mapTypes, List.flatMap_map]
    refine congrArg List.flatten (List.map_congr_left fun r _ => ?_)
    apply Resource.violations_mapLocatedFields
    exact fun _ _ => rfl
  have hnames : (s.mapTypes g).nameViolations = s.nameViolations := by
    simp only [nameViolations, clashingNames, objectNames_mapTypes, enumNames_mapTypes,
      resources_mapTypes, List.map_map]
    rfl
  rw [violations, hobjects, hresources, hnames]
  rfl

end Service
end ServiceSpec
