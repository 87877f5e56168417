import Mathlib.Data.List.Induction
import ServiceSpec.Proofs.BaseExpansion

/-!
# What is reported, and why

Validation is complete: whatever it can report is reported if and only if the service gives a cause.
The causes are said here without the lists of reports, by what stands in the service.

Most of them are about names.  A service has lists of names that must be distinct, and all of them
but the values of enums must not be blank either.  A name that is repeated in a list is reported
once, where it stands for the second time.  The law for that is the one of a list that gets one name
longer, from which a list can be read to its end.

## Main definitions

* `SecondBefore`: one name of a list stands for the second time before another one does
* `NameList`: names that must be distinct, with the reports about them
* `Service.nameLists`: all such lists of a service
* `Service.Breaks`: what a service gives cause to report

## Main results

* `duplicates_concat`: what one more name adds to the repeated names
* `pairwise_duplicates`: repeated names stand in the order of their second occurrences
* `mem_violations_iff`: what is reported is what the service gives cause to report
* `filter_isRepetition_violations`: the repeated names that are reported, list by list
* `validate_reports`: the outcome of validation
-/

namespace ServiceSpec

/-! ## Repeated names -/

section Repeated

variable {names seen : List String} {m n : String}

theorem duplicatesAfter_concat (seen names : List String) (n : String) :
    duplicatesAfter seen (names ++ [n]) = duplicatesAfter seen names ++
      if seen.count n + names.count n = 1 then [n] else [] := by
  induction names generalizing seen with
  | nil =>
    rw [List.nil_append, duplicatesAfter, List.count_nil, Nat.add_zero]
    rfl
  | cons m rest ih =>
    have hcount : (m :: seen).count n + rest.count n = seen.count n + (m :: rest).count n := by
      rw [List.count_cons, List.count_cons]
      omega
    rw [List.cons_append, duplicatesAfter, duplicatesAfter, ih, hcount]
    split <;> rfl

/-- **One more name is reported if and only if it stands there for the second time.** -/
theorem duplicates_concat (names : List String) (n : String) :
    duplicates (names ++ [n]) = duplicates names ++ if names.count n = 1 then [n] else [] := by
  rw [duplicates, duplicatesAfter_concat, List.count_nil, Nat.zero_add, duplicates]

theorem mem_duplicates : n ∈ duplicates names ↔ 2 ≤ names.count n := by
  induction names using List.reverseRecOn with
  | nil => simp [duplicates, duplicatesAfter]
  | append_singleton names m ih =>
    rw [duplicates_concat, List.mem_append, ih, List.count_append, List.count_singleton]
    by_cases hmn : m = n
    · subst hmn
      rw [if_pos (beq_self_eq_true m)]
      split
      · exact iff_of_true (.inr (List.mem_singleton_self m)) (by omega)
      · simp only [List.not_mem_nil, or_false]
        omega
    · have hnew : n ∉ if names.count m = 1 then [m] else [] := by
        split <;> simp [Ne.symm hmn]
      simp [hnew, hmn]

/-- A repeated name is reported once, however often it occurs. -/
theorem nodup_duplicates (names : List String) : (duplicates names).Nodup := by
  induction names using List.reverseRecOn with
  | nil => exact List.nodup_nil
  | append_singleton names n ih =>
    rw [duplicates_concat]
    split
    · rename_i hn
      refine List.nodup_append.mpr ⟨ih, List.nodup_singleton n, ?_⟩
      rintro m hm _ hmem rfl
      rw [List.mem_singleton.mp hmem, mem_duplicates] at hm
      omega
    · rwa [List.append_nil]

/-- In the list, `m` stands for the second time before `n` does. -/
def SecondBefore (names : List String) (m n : String) : Prop :=
  ∃ start between rest, names = start ++ m :: (between ++ n :: rest) ∧ start.count m = 1 ∧
    (start ++ m :: between).count n = 1

theorem SecondBefore.append (h : SecondBefore names m n) (more : List String) :
    SecondBefore (names ++ more) m n := by
  obtain ⟨start, between, rest, rfl, hm, hn⟩ := h
  exact ⟨start, between, rest ++ more, by simp, hm, hn⟩

/-- A name that occurs twice stands somewhere for the second time. -/
theorem exists_second (h : 2 ≤ names.count n) :
    ∃ start rest, names = start ++ n :: rest ∧ start.count n = 1 := by
  induction names using List.reverseRecOn with
  | nil => simp at h
  | append_singleton names m ih =>
    by_cases hrest : 2 ≤ names.count n
    · obtain ⟨start, rest, rfl, hstart⟩ := ih hrest
      exact ⟨start, rest ++ [m], by simp, hstart⟩
    · obtain rfl : m = n := by
        by_contra hmn
        rw [List.count_append, List.count_singleton, if_neg (by simpa using hmn)] at h
        exact hrest h
      rw [List.count_append, List.count_singleton_self] at h
      exact ⟨names, [], rfl, by omega⟩

/-- **Repeated names stand in the order of their second occurrences.** -/
theorem pairwise_duplicates (names : List String) :
    (duplicates names).Pairwise (SecondBefore names) := by
  induction names using List.reverseRecOn with
  | nil => exact .nil
  | append_singleton names n ih =>
    rw [duplicates_concat]
    have hbefore := ih.imp fun h => SecondBefore.append h [n]
    split
    · rename_i hn
      refine List.pairwise_append.mpr ⟨hbefore, List.pairwise_singleton .., ?_⟩
      rintro m hm _ hmem
      obtain rfl := List.mem_singleton.mp hmem
      obtain ⟨start, between, rfl, hstart⟩ := exists_second (mem_duplicates.mp hm)
      exact ⟨start, between, [], by simp, hstart, hn⟩
    · rwa [List.append_nil]

end Repeated

/-! ## Lists of names -/

/-- Names that must be distinct. -/
structure NameList where
  names : List String
  /-- What is reported of a name that is repeated. -/
  report : String → ValidationError
  /-- Where a blank name is reported, if the names must not be blank. -/
  site? : Option NameSite

/-- The values of an enum, which may be blank. -/
def Enum.valueList (e : Enum) : NameList where
  names := e.valueNames
  report v := .duplicateName .enumValue (e.name ++ "." ++ v)
  site? := none

/-- The fields of an object. -/
def Object.fieldList (o : Object) : NameList where
  names := o.fieldNames
  report := .duplicateField (.object o.name)
  site? := some (.objectFields o.name)

namespace Resource

/-- The columns of a resource. -/
def columnList (r : Resource) : NameList where
  names := r.fields.map (·.name)
  report := .duplicateField (.resource r.name)
  site? := some (.resourceFields r.name)

/-- The endpoints of a resource. -/
def endpointList (r : Resource) : NameList where
  names := r.endpoints.map (·.name)
  report := .duplicateEndpoint r.name
  site? := some (.endpoints r.name)

end Resource

namespace Service

/-- The enums of a service. -/
def enumList (s : Service) : NameList where
  names := s.enumNames
  report := .duplicateName .enum
  site? := some .enums

/-- The objects of a service. -/
def objectList (s : Service) : NameList where
  names := s.objectNames
  report := .duplicateName .object
  site? := some .objects

/-- The resources of a service. -/
def resourceList (s : Service) : NameList where
  names := s.resources.map (·.name)
  report := .duplicateName .resource
  site? := some .resources

/-- All names of a service that must be distinct, in the order in which they are checked. -/
def nameLists (s : Service) : List NameList :=
  s.enums.map Enum.valueList ++ s.objects.map Object.fieldList ++
    s.resources.flatMap (fun r => [r.columnList, r.endpointList]) ++
    [s.enumList, s.objectList, s.resourceList]

/-- What a service gives cause to report. -/
inductive Breaks (s : Service) : ValidationError → Prop
  /-- A name is blank that must not be. -/
  | blank {l : NameList} {site : NameSite} {n : String} (hl : l ∈ s.nameLists)
      (hs : l.site? = some site) (hn : n ∈ l.names) (hb : Text.isBlank n) :
      Breaks s (.emptyName site)
  /-- A name is repeated in its list. -/
  | repeated {l : NameList} {n : String} (hl : l ∈ s.nameLists) (hn : 2 ≤ l.names.count n) :
      Breaks s (l.report n)
  /-- An enum has no values. -/
  | emptyEnum {e : Enum} (he : e ∈ s.enums) (hv : e.values = []) : Breaks s (.emptyEnum e.name)
  /-- A column takes part in an operation that its resource does not allow. -/
  | operationNotAllowed {r : Resource} {c : ResourceField} {op : Operation}
      (hr : r ∈ s.resources) (hc : c ∈ r.fields) (hop : op ∈ c.operations)
      (ha : op ∉ r.operations) : Breaks s (.operationNotAllowed r.name c.name op)
  /-- A response has a body object and fields of a body. -/
  | conflictingBody {r : Resource} {e : Endpoint} (hr : r ∈ s.resources)
      (he : e ∈ r.endpoints) (ho : e.response.bodyObject ≠ none)
      (hf : e.response.bodyFields ≠ []) : Breaks s (.conflictingResponseBody r.name e.name)
  /-- An object and an enum share a name. -/
  | sharedName {n : String} (ho : n ∈ s.objectNames) (he : n ∈ s.enumNames) :
      Breaks s (.objectEnumClash n)

end Service

/-! ## Reports -/

variable {x : ValidationError}

theorem mem_map_duplicates {l : NameList} :
    x ∈ (duplicates l.names).map l.report ↔ ∃ n, 2 ≤ l.names.count n ∧ x = l.report n := by
  simp only [List.mem_map, mem_duplicates, eq_comm (a := x)]

theorem mem_of_condition {p : Prop} [Decidable p] {y : ValidationError} :
    (x ∈ if p then [y] else []) ↔ p ∧ x = y := by
  split <;> simp_all

theorem Enum.mem_violations {e : Enum} :
    x ∈ e.violations ↔ (Text.isBlank e.name ∧ x = .emptyName .enums) ∨
      (e.values = [] ∧ x = .emptyEnum e.name) ∨
      ∃ n, 2 ≤ e.valueList.names.count n ∧ x = e.valueList.report n := by
  rw [← mem_map_duplicates, violations, List.mem_append, List.mem_append, mem_of_condition,
    mem_of_condition, List.isEmpty_iff, or_assoc]
  rfl

theorem mem_map_const {α : Type} {p : α → Bool} {l : List α} {y : ValidationError} :
    x ∈ (l.filter p).map (fun _ => y) ↔ (∃ a ∈ l, p a) ∧ x = y := by
  rw [List.mem_map]
  constructor
  · rintro ⟨a, ha, rfl⟩
    exact ⟨⟨a, List.mem_filter.mp ha⟩, rfl⟩
  · rintro ⟨⟨a, ha⟩, rfl⟩
    exact ⟨a, List.mem_filter.mpr ha, rfl⟩

theorem Object.mem_violations {o : Object} :
    x ∈ o.violations ↔ (Text.isBlank o.name ∧ x = .emptyName .objects) ∨
      ((∃ f ∈ o.fields, Text.isBlank f.name) ∧ x = .emptyName (.objectFields o.name)) ∨
      ∃ n, 2 ≤ o.fieldList.names.count n ∧ x = o.fieldList.report n := by
  rw [← mem_map_duplicates, violations, List.mem_append, List.mem_append, mem_of_condition,
    mem_map_const, or_assoc]
  rfl

namespace Resource

variable {r : Resource} {c : ResourceField} {e : Endpoint}

theorem mem_fieldViolations :
    x ∈ r.fieldViolations c ↔ (Text.isBlank c.name ∧ x = .emptyName (.resourceFields r.name)) ∨
      ∃ op ∈ c.operations, op ∉ r.operations ∧ x = .operationNotAllowed r.name c.name op := by
  rw [fieldViolations, List.mem_append, mem_of_condition]
  simp [allows, and_assoc, eq_comm (a := x)]

theorem mem_endpointViolations :
    x ∈ r.endpointViolations e ↔ (Text.isBlank e.name ∧ x = .emptyName (.endpoints r.name)) ∨
      (e.response.bodyObject ≠ none ∧ e.response.bodyFields ≠ []) ∧
        x = .conflictingResponseBody r.name e.name := by
  rw [endpointViolations, List.mem_append, mem_of_condition, mem_of_condition]
  simp [Option.isSome_iff_ne_none]

theorem mem_violations :
    x ∈ r.violations ↔ (Text.isBlank r.name ∧ x = .emptyName .resources) ∨
      (∃ c ∈ r.fields, x ∈ r.fieldViolations c) ∨
      (∃ n, 2 ≤ r.columnList.names.count n ∧ x = r.columnList.report n) ∨
      (∃ e ∈ r.endpoints, x ∈ r.endpointViolations e) ∨
      ∃ n, 2 ≤ r.endpointList.names.count n ∧ x = r.endpointList.report n := by
  rw [← mem_map_duplicates, ← mem_map_duplicates, violations]
  simp only [List.mem_append, List.mem_flatMap, mem_of_condition, or_assoc]
  rfl

end Resource

namespace Service

variable {s : Service}

theorem mem_nameViolations :
    x ∈ s.nameViolations ↔ (∃ n, 2 ≤ s.enumList.names.count n ∧ x = s.enumList.report n) ∨
      (∃ n, 2 ≤ s.objectList.names.count n ∧ x = s.objectList.report n) ∨
      (∃ n, 2 ≤ s.resourceList.names.count n ∧ x = s.resourceList.report n) ∨
      ∃ n, (n ∈ s.objectNames ∧ n ∈ s.enumNames) ∧ x = .objectEnumClash n := by
  rw [← mem_map_duplicates, ← mem_map_duplicates, ← mem_map_duplicates]
  simp only [← mem_clashingNames, nameViolations, List.mem_append, or_assoc, eq_comm (a := x)]
  rw [← List.mem_map]
  rfl

theorem mem_nameLists {l : NameList} :
    l ∈ s.nameLists ↔ (∃ e ∈ s.enums, l = e.valueList) ∨ (∃ o ∈ s.objects, l = o.fieldList) ∨
      (∃ r ∈ s.resources, l = r.columnList ∨ l = r.endpointList) ∨
      l = s.enumList ∨ l = s.objectList ∨ l = s.resourceList := by
  simp [nameLists, eq_comm (a := l)]

theorem breaks_of_enum {e : Enum} (he : e ∈ s.enums) (h : x ∈ e.violations) : s.Breaks x := by
  have hnames : s.enumList ∈ s.nameLists := by simp [nameLists]
  rcases Enum.mem_violations.mp h with ⟨hb, rfl⟩ | ⟨hv, rfl⟩ | ⟨n, hn, rfl⟩
  · exact .blank hnames rfl (List.mem_map_of_mem he) hb
  · exact .emptyEnum he hv
  · exact .repeated (mem_nameLists.mpr (.inl ⟨e, he, rfl⟩)) hn

theorem breaks_of_object {o : Object} (ho : o ∈ s.objects) (h : x ∈ o.violations) :
    s.Breaks x := by
  have hnames : s.objectList ∈ s.nameLists := by simp [nameLists]
  have hfields : o.fieldList ∈ s.nameLists := mem_nameLists.mpr (.inr (.inl ⟨o, ho, rfl⟩))
  rcases Object.mem_violations.mp h with ⟨hb, rfl⟩ | ⟨⟨f, hf, hb⟩, rfl⟩ | ⟨n, hn, rfl⟩
  · exact .blank hnames rfl (List.mem_map_of_mem ho) hb
  · exact .blank hfields rfl (List.mem_map_of_mem hf) hb
  · exact .repeated hfields hn

theorem breaks_of_resource {r : Resource} (hr : r ∈ s.resources) (h : x ∈ r.violations) :
    s.Breaks x := by
  have hnames : s.resourceList ∈ s.nameLists := by simp [nameLists]
  have hcolumns : r.columnList ∈ s.nameLists :=
    mem_nameLists.mpr (.inr (.inr (.inl ⟨r, hr, .inl rfl⟩)))
  have hendpoints : r.endpointList ∈ s.nameLists :=
    mem_nameLists.mpr (.inr (.inr (.inl ⟨r, hr, .inr rfl⟩)))
  rcases Resource.mem_violations.mp h with
    ⟨hb, rfl⟩ | ⟨c, hc, hx⟩ | ⟨n, hn, rfl⟩ | ⟨e, he, hx⟩ | ⟨n, hn, rfl⟩
  · exact .blank hnames rfl (List.mem_map_of_mem hr) hb
  · rcases Resource.mem_fieldViolations.mp hx with ⟨hb, rfl⟩ | ⟨op, hop, ha, rfl⟩
    · exact .blank hcolumns rfl (List.mem_map_of_mem hc) hb
    · exact .operationNotAllowed hr hc hop ha
  · exact .repeated hcolumns hn
  · rcases Resource.mem_endpointViolations.mp hx with ⟨hb, rfl⟩ | ⟨⟨ho, hf⟩, rfl⟩
    · exact .blank hendpoints rfl (List.mem_map_of_mem he) hb
    · exact .conflictingBody hr he ho hf
  · exact .repeated hendpoints hn

theorem breaks_of_names (h : x ∈ s.nameViolations) : s.Breaks x := by
  rcases mem_nameViolations.mp h with ⟨n, hn, rfl⟩ | ⟨n, hn, rfl⟩ | ⟨n, hn, rfl⟩ | ⟨n, hn, rfl⟩
  · exact .repeated (by simp [nameLists]) hn
  · exact .repeated (by simp [nameLists]) hn
  · exact .repeated (by simp [nameLists]) hn
  · exact .sharedName hn.1 hn.2

theorem mem_violations :
    x ∈ s.violations ↔ (∃ e ∈ s.enums, x ∈ e.violations) ∨ (∃ o ∈ s.objects, x ∈ o.violations) ∨
      (∃ r ∈ s.resources, x ∈ r.violations) ∨ x ∈ s.nameViolations := by
  simp only [violations, List.mem_append, List.mem_flatMap, or_assoc]

theorem mem_violations_of_blank {l : NameList} {site : NameSite} {n : String}
    (hl : l ∈ s.nameLists) (hs : l.site? = some site) (hn : n ∈ l.names)
    (hb : Text.isBlank n) : .emptyName site ∈ s.violations := by
  rw [mem_violations]
  rcases mem_nameLists.mp hl with ⟨e, he, rfl⟩ | ⟨o, ho, rfl⟩ | ⟨r, hr, rfl | rfl⟩ | rfl | rfl | rfl
  · cases hs
  all_goals
    obtain rfl := Option.some.inj hs
    obtain ⟨y, hy, rfl⟩ := List.mem_map.mp hn
  · exact .inr (.inl ⟨o, ho, Object.mem_violations.mpr (.inr (.inl ⟨⟨y, hy, hb⟩, rfl⟩))⟩)
  · refine .inr (.inr (.inl ⟨r, hr, Resource.mem_violations.mpr (.inr (.inl ⟨y, hy, ?_⟩))⟩))
    exact Resource.mem_fieldViolations.mpr (.inl ⟨hb, rfl⟩)
  · refine .inr (.inr (.inl ⟨r, hr,
      Resource.mem_violations.mpr (.inr (.inr (.inr (.inl ⟨y, hy, ?_⟩))))⟩))
    exact Resource.mem_endpointViolations.mpr (.inl ⟨hb, rfl⟩)
  · exact .inl ⟨y, hy, Enum.mem_violations.mpr (.inl ⟨hb, rfl⟩)⟩
  · exact .inr (.inl ⟨y, hy, Object.mem_violations.mpr (.inl ⟨hb, rfl⟩)⟩)
  · exact .inr (.inr (.inl ⟨y, hy, Resource.mem_violations.mpr (.inl ⟨hb, rfl⟩)⟩))

theorem mem_violations_of_repeated {l : NameList} {n : String} (hl : l ∈ s.nameLists)
    (hn : 2 ≤ l.names.count n) : l.report n ∈ s.violations := by
  rw [mem_violations]
  rcases mem_nameLists.mp hl with ⟨e, he, rfl⟩ | ⟨o, ho, rfl⟩ | ⟨r, hr, rfl | rfl⟩ | rfl | rfl | rfl
  · exact .inl ⟨e, he, Enum.mem_violations.mpr (.inr (.inr ⟨n, hn, rfl⟩))⟩
  · exact .inr (.inl ⟨o, ho, Object.mem_violations.mpr (.inr (.inr ⟨n, hn, rfl⟩))⟩)
  · exact .inr (.inr (.inl ⟨r, hr,
      Resource.mem_violations.mpr (.inr (.inr (.inl ⟨n, hn, rfl⟩)))⟩))
  · exact .inr (.inr (.inl ⟨r, hr,
      Resource.mem_violations.mpr (.inr (.inr (.inr (.inr ⟨n, hn, rfl⟩))))⟩))
  · exact .inr (.inr (.inr (mem_nameViolations.mpr (.inl ⟨n, hn, rfl⟩))))
  · exact .inr (.inr (.inr (mem_nameViolations.mpr (.inr (.inl ⟨n, hn, rfl⟩)))))
  · exact .inr (.inr (.inr (mem_nameViolations.mpr (.inr (.inr (.inl ⟨n, hn, rfl⟩))))))

/-- **What is reported is what the service gives cause to report.** -/
theorem mem_violations_iff : x ∈ s.violations ↔ s.Breaks x := by
  constructor
  · intro h
    rcases mem_violations.mp h with ⟨e, he, h⟩ | ⟨o, ho, h⟩ | ⟨r, hr, h⟩ | h
    · exact breaks_of_enum he h
    · exact breaks_of_object ho h
    · exact breaks_of_resource hr h
    · exact breaks_of_names h
  · intro h
    cases h with
    | blank hl hs hn hb => exact mem_violations_of_blank hl hs hn hb
    | repeated hl hn => exact mem_violations_of_repeated hl hn
    | emptyEnum he hv =>
      exact mem_violations.mpr (.inl ⟨_, he, Enum.mem_violations.mpr (.inr (.inl ⟨hv, rfl⟩))⟩)
    | operationNotAllowed hr hc hop ha =>
      refine mem_violations.mpr (.inr (.inr (.inl ⟨_, hr,
        Resource.mem_violations.mpr (.inr (.inl ⟨_, hc, ?_⟩))⟩)))
      exact Resource.mem_fieldViolations.mpr (.inr ⟨_, hop, ha, rfl⟩)
    | conflictingBody hr he ho hf =>
      refine mem_violations.mpr (.inr (.inr (.inl ⟨_, hr,
        Resource.mem_violations.mpr (.inr (.inr (.inr (.inl ⟨_, he, ?_⟩))))⟩)))
      exact Resource.mem_endpointViolations.mpr (.inr ⟨⟨ho, hf⟩, rfl⟩)
    | sharedName ho he =>
      exact mem_violations.mpr (.inr (.inr (.inr
        (mem_nameViolations.mpr (.inr (.inr (.inr ⟨_, ⟨ho, he⟩, rfl⟩)))))))

end Service

/-! ## Repeated names among the reports -/

/-- Whether a name is reported as repeated. -/
def ValidationError.isRepetition : ValidationError → Bool
  | duplicateName .. | duplicateField .. | duplicateEndpoint .. => true
  | _ => false

/-- The reports about the repeated names of a list. -/
def NameList.repetitions (l : NameList) : List ValidationError :=
  (duplicates l.names).map l.report

theorem filter_isRepetition_eq_nil {xs : List ValidationError}
    (h : ∀ x ∈ xs, x.isRepetition = false) : xs.filter (·.isRepetition) = [] :=
  List.filter_eq_nil_iff.mpr fun x hx => by simp [h x hx]

theorem filter_isRepetition_condition {p : Prop} [Decidable p] {y : ValidationError}
    (hy : y.isRepetition = false) : (if p then [y] else []).filter (·.isRepetition) = [] :=
  filter_isRepetition_eq_nil fun x hx => by rw [(mem_of_condition.mp hx).2, hy]

theorem filter_isRepetition_map_eq_nil {α : Type} {f : α → ValidationError} {l : List α}
    (hf : ∀ a, (f a).isRepetition = false) : (l.map f).filter (·.isRepetition) = [] :=
  filter_isRepetition_eq_nil (List.forall_mem_map.mpr fun a _ => hf a)

theorem filter_isRepetition_map {α : Type} {f : α → ValidationError} {l : List α}
    (hf : ∀ a, (f a).isRepetition) : (l.map f).filter (·.isRepetition) = l.map f :=
  List.filter_eq_self.mpr (List.forall_mem_map.mpr fun a _ => hf a)

theorem Enum.filter_isRepetition_violations (e : Enum) :
    e.violations.filter (·.isRepetition) = e.valueList.repetitions := by
  rw [violations, List.filter_append, List.filter_append, filter_isRepetition_condition rfl,
    filter_isRepetition_condition rfl, filter_isRepetition_map fun _ => rfl]
  rfl

theorem Object.filter_isRepetition_violations (o : Object) :
    o.violations.filter (·.isRepetition) = o.fieldList.repetitions := by
  rw [violations, List.filter_append, List.filter_append, filter_isRepetition_condition rfl,
    filter_isRepetition_map_eq_nil fun _ => rfl, filter_isRepetition_map fun _ => rfl]
  rfl

theorem Resource.filter_isRepetition_violations (r : Resource) :
    r.violations.filter (·.isRepetition) =
      r.columnList.repetitions ++ r.endpointList.repetitions := by
  have hfields : ∀ c, (r.fieldViolations c).filter (·.isRepetition) = [] := fun c => by
    rw [fieldViolations, List.filter_append, filter_isRepetition_condition rfl,
      filter_isRepetition_map_eq_nil fun _ => rfl]
    rfl
  have hendpoints : ∀ e, (r.endpointViolations e).filter (·.isRepetition) = [] := fun e => by
    rw [endpointViolations, List.filter_append, filter_isRepetition_condition rfl,
      filter_isRepetition_condition rfl]
    rfl
  have hnone : ∀ {α : Type} (l : List α), (l.flatMap fun _ => ([] : List ValidationError)) = [] :=
    fun l => List.flatMap_eq_nil_iff.mpr fun _ _ => rfl
  rw [violations]
  simp only [List.filter_append, List.filter_flatMap, hfields, hendpoints, hnone]
  rw [filter_isRepetition_condition rfl, filter_isRepetition_map fun _ => rfl,
    filter_isRepetition_map fun _ => rfl, List.append_nil]
  rfl

namespace Service

variable {s : Service}

theorem filter_isRepetition_nameViolations (s : Service) :
    s.nameViolations.filter (·.isRepetition) =
      s.enumList.repetitions ++ s.objectList.repetitions ++ s.resourceList.repetitions := by
  simp only [nameViolations, List.filter_append]
  rw [filter_isRepetition_map fun _ => rfl, filter_isRepetition_map fun _ => rfl,
    filter_isRepetition_map fun _ => rfl, filter_isRepetition_map_eq_nil fun _ => rfl,
    List.append_nil]
  rfl

/-- **The repeated names that are reported are those of the lists, list by list.** -/
theorem filter_isRepetition_violations (s : Service) :
    s.violations.filter (·.isRepetition) = s.nameLists.flatMap NameList.repetitions := by
  simp only [violations, List.filter_append, List.filter_flatMap,
    Enum.filter_isRepetition_violations, Object.filter_isRepetition_violations,
    Resource.filter_isRepetition_violations, filter_isRepetition_nameViolations, nameLists,
    List.flatMap_append, List.flatMap_map, List.flatMap_assoc, List.flatMap_cons,
    List.flatMap_nil, List.append_nil, List.append_assoc]

/-- Different names of a list have different reports. -/
theorem injective_report {l : NameList} (hl : l ∈ s.nameLists) : Function.Injective l.report := by
  intro m n h
  rcases mem_nameLists.mp hl with ⟨e, -, rfl⟩ | ⟨o, -, rfl⟩ | ⟨r, -, rfl | rfl⟩ | rfl | rfl | rfl
  · injection h with _ htext
    simpa using htext
  all_goals
    injection h

theorem nodup_repetitions {l : NameList} (hl : l ∈ s.nameLists) : l.repetitions.Nodup :=
  (nodup_duplicates l.names).map (injective_report hl)

/-- **Validation reports what the service gives cause to report**, and it is passed if and only if
that is nothing.  The reports of repeated names go through the lists of names one after the other.
In a list each repeated name is reported once, however often it occurs, and the names come in the
order of their second occurrences. -/
theorem validate_reports (s : Service) :
    (s.validate = .ok () ↔ ∀ x, ¬ s.Breaks x) ∧
    (s.validate = .ok () ∨ ∃ errors, s.validate = .error errors ∧
      (∀ x, x ∈ errors ↔ s.Breaks x) ∧
      errors.filter (·.isRepetition) = s.nameLists.flatMap NameList.repetitions) ∧
    ∀ l ∈ s.nameLists, l.repetitions = (duplicates l.names).map l.report ∧
      l.repetitions.Nodup ∧ (∀ n, n ∈ duplicates l.names ↔ 2 ≤ l.names.count n) ∧
      (duplicates l.names).Pairwise (SecondBefore l.names) := by
  refine ⟨?_, ?_, fun l hl =>
    ⟨rfl, nodup_repetitions hl, fun _ => mem_duplicates, pairwise_duplicates l.names⟩⟩
  · rw [validate_eq_ok_iff, List.eq_nil_iff_forall_not_mem]
    exact forall_congr' fun x => not_congr mem_violations_iff
  · by_cases hv : s.violations = []
    · exact .inl (validate_of_nil hv)
    · exact .inr ⟨s.violations, validate_of_ne_nil hv, fun _ => mem_violations_iff,
        s.filter_isRepetition_violations⟩

/-- A service with an enum whose values are repeated, one of them three times. -/
def palette : Service where
  name := "Palette"
  enums := [{ name := "Color", values := [{ name := "Red" }, { name := "Blue" },
    { name := "Blue" }, { name := "Red" }, { name := "Blue" }] }]

/-- The value that is repeated first is reported first, and each is reported once. -/
theorem validate_reports_palette :
    ∃ color ∈ palette.enums, color.valueList ∈ palette.nameLists ∧
      duplicates color.valueList.names = ["Blue", "Red"] ∧ color.valueList.repetitions.Nodup ∧
      palette.Breaks (.duplicateName .enumValue "Color.Blue") ∧ palette.validate ≠ .ok () := by
  obtain ⟨hok, -, hlists⟩ := validate_reports palette
  refine ⟨_, List.mem_singleton_self _, List.mem_cons_self .., by decide, ?_⟩
  obtain ⟨-, hnodup, hmem, -⟩ := hlists _ (List.mem_cons_self ..)
  have hblue : palette.Breaks (.duplicateName .enumValue "Color.Blue") :=
    .repeated (List.mem_cons_self ..) ((hmem "Blue").mp (by decide))
  exact ⟨hnodup, hblue, fun h => hok.mp h _ hblue⟩

end Service

end ServiceSpec
