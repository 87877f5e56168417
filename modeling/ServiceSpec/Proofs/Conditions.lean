import ServiceSpec.Proofs.FilterGroups

/-!
# Conditions on fields

A search can put five kinds of conditions on the values of an object, and a filter object lists the
fields that a condition of its kind can be put on.  Which fields these are depends on the type and
on the modifiers, and the kinds overlap: a text that may be left out can be compared, searched and
asked for, a list of texts can be compared and searched but not matched against a pattern.

What the five have in common is proved once.  Each is a selection of the fields of the object under
their own names, and what a condition compares with is a value of the field, a list of such values,
or whether there is one.  Every condition may be left out, even where the field has a default or
must be given.  As the names of the fields are distinct, the field behind a condition is known from
its name.

## Main definitions

* `Offers`: an object has a condition for each field of another one that satisfies a predicate

## Main results

* `Condition.offers_build`: the conditions of one kind
* `Object.filters_offer`: the six filter objects of an object
-/

namespace ServiceSpec

variable {o : Object} {f g : Field}

/-- The object `x` has a condition for each field of `o` that is `applicable`, under its name.  The
condition is made with values of type `type f`, or with a list of them if the field is `listed`. -/
structure Offers (o x : Object) (applicable : Field → Prop) (type : Field → TypeRef)
    (listed : Field → Prop) : Prop where
  names : x.fieldNames.Sublist o.fieldNames
  distinct : x.fieldNames.Nodup
  occurs : ∀ f ∈ o.fields, f.name ∈ x.fieldNames ↔ applicable f
  typed : ∀ f ∈ o.fields, ∀ g ∈ x.fields, g.name = f.name → g.type = type f
  lists : ∀ f ∈ o.fields, ∀ g ∈ x.fields, g.name = f.name → (g.isArray ↔ listed f)
  optional : ∀ g ∈ x.fields, ¬ g.isRequired

/-! ## Types that conditions ask for -/

theorem TypeRef.isOrdered_iff {t : TypeRef} :
    t.isOrdered ↔ t ∈ [.primitive .int, .primitive .date, .primitive .timestamp] := by
  rcases t with p | n | n | n
  · cases p <;> decide
  all_goals simp [isOrdered, primitive?]

theorem TypeRef.isText_iff {t : TypeRef} : t.isText ↔ t = .primitive .string := by
  rcases t with p | n | n | n
  · cases p <;> decide
  all_goals simp [isText, primitive?]

/-! ## One kind of condition -/

namespace Condition

/-- A condition may be left out. -/
theorem not_isRequired_project (k : Condition) (f : Field) : ¬ (k.project f).isRequired := by
  have hnullable : (k.project f).isNullable := by
    unfold Field.isNullable Field.has project
    cases k.takesList f <;> rfl
  simp [Field.isRequired, hnullable]

theorem isArray_project (k : Condition) (f : Field) : (k.project f).isArray = k.takesList f := by
  unfold Field.isArray Field.has project
  cases k.takesList f <;> rfl

theorem mem_fields_build {k : Condition} :
    g ∈ (k.build o).fields ↔ ∃ f ∈ o.fields, k.applies f ∧ k.project f = g := by
  simp only [build, List.mem_map, List.mem_filter, and_assoc]

/-- The field that a condition is about is the one of its name. -/
theorem eq_project_of_name_eq {k : Condition} (hn : o.fieldNames.Nodup) (hf : f ∈ o.fields)
    (hg : g ∈ (k.build o).fields) (hname : g.name = f.name) : k.applies f ∧ g = k.project f := by
  obtain ⟨f', hf', happlies, rfl⟩ := mem_fields_build.mp hg
  obtain rfl : f' = f := List.inj_on_of_nodup_map hn hf' hf hname
  exact ⟨happlies, rfl⟩

/-- **The conditions of one kind**: one for each field that they apply to. -/
theorem offers_build (k : Condition) (hn : o.fieldNames.Nodup) :
    Offers o (k.build o) (fun f => k.applies f) k.valueType fun f => k.takesList f := by
  have hsublist : (k.build o).fieldNames.Sublist o.fieldNames := by
    rw [fieldNames_build]
    exact List.filter_sublist.map _
  refine ⟨hsublist, hsublist.nodup hn, ?_, ?_, ?_, ?_⟩
  · intro f hf
    constructor
    · intro h
      obtain ⟨g, hg, hname⟩ := List.mem_map.mp h
      exact (eq_project_of_name_eq hn hf hg hname).1
    · intro happlies
      exact List.mem_map.mpr ⟨k.project f, mem_fields_build.mpr ⟨f, hf, happlies, rfl⟩, rfl⟩
  · intro f hf g hg hname
    rw [(eq_project_of_name_eq hn hf hg hname).2]
    rfl
  · intro f hf g hg hname
    rw [(eq_project_of_name_eq hn hf hg hname).2, isArray_project]
  · intro g hg
    obtain ⟨f, -, -, rfl⟩ := mem_fields_build.mp hg
    exact k.not_isRequired_project f

end Condition

/-! ## The six filter objects -/

theorem Offers.congr {x : Object} {applicable applicable' listed listed' : Field → Prop}
    {type : Field → TypeRef} (h : Offers o x applicable type listed)
    (happlicable : ∀ f, applicable f ↔ applicable' f) (hlisted : ∀ f, listed f ↔ listed' f) :
    Offers o x applicable' type listed' := by
  obtain rfl : applicable = applicable' := funext fun f => propext (happlicable f)
  obtain rfl : listed = listed' := funext fun f => propext (hlisted f)
  exact h

/-- **The filter objects of an object** with distinct field names stand under its six filter names,
in order.  All fields can be compared, those of ordered types that are no lists with bounds; lists
and texts can be searched, texts that are no lists matched, and fields that may be null asked for.
Types of filters are built in, or types of fields of the object, or its own filters. -/
theorem Object.filters_offer (hn : o.fieldNames.Nodup) :
    o.filters.map (·.name) = Standard.filterNames o.name ∧
    (∃ combined equals range contains like null,
      o.filters = [combined, equals, range, contains, like, null] ∧
      Offers o equals (fun _ => True) (·.type) (fun f => f.isArray) ∧
      Offers o range (fun f => ¬ f.isArray ∧
          f.type ∈ [.primitive .int, .primitive .date, .primitive .timestamp])
        (·.type) (fun _ => False) ∧
      Offers o contains (fun f => f.isArray ∨ f.type = .primitive .string)
        (·.type) (fun _ => True) ∧
      Offers o like (fun f => ¬ f.isArray ∧ f.type = .primitive .string)
        (·.type) (fun _ => False) ∧
      Offers o null (fun f => f.isNullable) (fun _ => .primitive .bool) (fun _ => False)) ∧
    ∀ x ∈ o.filters, ∀ g ∈ x.fields, g.type.primitive? = none →
      (∃ f ∈ o.fields, g.type = f.type) ∨
        ∃ n ∈ Standard.filterNames o.name, g.type = .object n := by
  have hbuilt := fun k => Condition.offers_build k hn
  refine ⟨o.name_filters, ⟨_, _, _, _, _, _, rfl, ?_, ?_, ?_, ?_, ?_⟩, ?_⟩
  · apply (hbuilt .equals).congr <;> intro f
    · simp [Condition.applies]
    · rfl
  · apply (hbuilt .range).congr <;> intro f
    · rw [← TypeRef.isOrdered_iff]
      simp [Condition.applies]
    · simp [Condition.takesList]
  · apply (hbuilt .contains).congr <;> intro f
    · rw [← TypeRef.isText_iff]
      simp [Condition.applies, Field.isContainable]
    · simp [Condition.takesList]
  · apply (hbuilt .like).congr <;> intro f
    · rw [← TypeRef.isText_iff]
      simp [Condition.applies]
    · simp [Condition.takesList]
  · apply (hbuilt .null).congr <;> intro f
    · rfl
    · simp [Condition.takesList]
  · intro x hx g hg hprimitive
    rcases Object.type_of_mem_filters hx hg with ⟨p, hp⟩ | hfield | hfilter
    · rw [hp] at hprimitive
      cases hprimitive
    · exact .inl hfield
    · exact .inr hfilter

/-- An object with a list that may be null and has a default, and with references. -/
def player : Object where
  name := "Player"
  fields :=
    [{ name := "scores"
       type := .primitive .int
       default := "0"
       modifiers := [.nullable, .array] },
     { name := "nickname", type := .primitive .string, modifiers := [.nullable] },
     { name := "bornOn", type := .primitive .date },
     { name := "team", type := .object "Team" },
     { name := "level", type := .enum "Level" }]

theorem Object.filters_offer_player :
    player.fieldNames.Nodup ∧
      player.filters.tail.map (·.fieldNames) =
        [["scores", "nickname", "bornOn", "team", "level"], ["bornOn"], ["scores", "nickname"],
          ["nickname"], ["scores", "nickname"]] ∧
      ∃ x ∈ player.filters, Offers player x (fun f => f.isArray ∨ f.type = .primitive .string)
        (·.type) fun _ => True := by
  have hn : player.fieldNames.Nodup := by decide
  refine ⟨hn, by decide, ?_⟩
  obtain ⟨-, ⟨_, _, _, contains, _, _, heq, -, -, hcontains, -⟩, -⟩ := Object.filters_offer hn
  exact ⟨contains, by simp [heq], hcontains⟩

end ServiceSpec
