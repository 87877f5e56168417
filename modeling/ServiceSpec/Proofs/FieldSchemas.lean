import Mathlib.Data.Option.Basic
import ServiceSpec.OpenApi
import ServiceSpec.Proofs.Documents

/-!
# What the schema of a field shows

The schema of a field is built around the schema of its type: a list puts it under `items`, and a
field that may be null puts the result under `anyOf`.  What else there is to say of the field is
added at the outside, under keys of its own.  So the layers can be told apart again, and everything
that a client has to know of a field is read off its schema.  Two things are not there: the name of
the field, and whether a reference is one to an object, to an enum or not settled yet.

The order of entries says nothing, so schemas are compared without regard to it.

## Main definitions

* `Document.Alike`: documents that are the same up to the order of entries
* `Field.plainSchema`: the schema of the values of a field other than null
* `Document.asksForValue`: a value must be given, as far as a schema says

## Main results

* `Alike.find?`: alike documents have alike values under a key
* `alike_plainSchema`: fields with alike schemas have alike schemas inside
* `schema_faithful`: fields with alike schemas are alike, and a schema says what is required
-/

namespace ServiceSpec

open Document

namespace Document

variable {d d' : Document} {k : String}

/-! ## Documents without the order of entries -/

/-- The documents are the same up to the order of the entries of objects. -/
inductive Alike : Document → Document → Prop
  | null : Alike .null .null
  | bool (b : Bool) : Alike (.bool b) (.bool b)
  | integer (n : Int) : Alike (.integer n) (.integer n)
  | float (x : Float) : Alike (.float x) (.float x)
  | text (s : String) : Alike (.text s) (.text s)
  | list {xs ys : List Document} (h : List.Forall₂ Alike xs ys) : Alike (.list xs) (.list ys)
  | object {es fs : List (String × Document)}
      (h : ∀ k, Option.Rel Alike (es.lookup k) (fs.lookup k)) : Alike (.object es) (.object fs)

theorem sizeOf_lt_of_lookup {es : List (String × Document)} {v : Document}
    (h : es.lookup k = some v) : sizeOf v < sizeOf es := by
  obtain ⟨before, after, rfl, -⟩ := List.lookup_eq_some_iff.mp h
  have hmem : sizeOf (k, v) < sizeOf (before ++ (k, v) :: after) :=
    List.sizeOf_lt_of_mem (by simp)
  have hpair : sizeOf (k, v) = 1 + sizeOf k + sizeOf v := rfl
  omega

/-- A document is like itself. -/
protected theorem Alike.refl : ∀ d : Document, d.Alike d
  | .null => .null
  | .bool b => .bool b
  | .integer n => .integer n
  | .float x => .float x
  | .text s => .text s
  | .list xs => .list (List.forall₂_same.mpr fun x _ => Alike.refl x)
  | .object es => .object fun k =>
    match _h : es.lookup k with
    | none => .none
    | some v => .some (Alike.refl v)
termination_by d => sizeOf d
decreasing_by
  · have hitem := List.sizeOf_lt_of_mem ‹x ∈ xs›
    simp only [list.sizeOf_spec]
    omega
  · have hvalue := sizeOf_lt_of_lookup ‹es.lookup k = some v›
    simp only [object.sizeOf_spec]
    omega

/-- Alike documents have alike values under a key. -/
theorem Alike.find? (h : d.Alike d') (k : String) : Option.Rel Alike (d.find? k) (d'.find? k) := by
  cases h with
  | object h => exact h k
  | _ => exact .none

theorem Alike.text?_eq (h : d.Alike d') : d.text? = d'.text? := by
  cases h <;> rfl

theorem Alike.textAt?_eq (h : d.Alike d') (k : String) : d.textAt? k = d'.textAt? k := by
  unfold textAt?
  generalize d.find? k = v, d'.find? k = v', h.find? k = hk
  cases hk with
  | none => rfl
  | some h => exact h.text?_eq

theorem Alike.isSome_find?_eq (h : d.Alike d') (k : String) :
    (d.find? k).isSome = (d'.find? k).isSome := by
  generalize d.find? k = v, d'.find? k = v', h.find? k = hk
  cases hk <;> rfl

/-- Whether one of the alternatives of a schema is the type of null. -/
def allowsNull (d : Document) : Bool :=
  match d.find? "anyOf" with
  | some (.list alternatives) => alternatives.any (·.textAt? "type" = some "null")
  | _ => false

/-- Whether a value must be given, as far as a schema says: it has no default and is not null. -/
def asksForValue (d : Document) : Bool :=
  (d.find? "default").isNone && !d.allowsNull

theorem allowsNull_iff : d.allowsNull ↔ ∃ alternatives,
    d.find? "anyOf" = some (.list alternatives) ∧
      ∃ a ∈ alternatives, a.textAt? "type" = some "null" := by
  unfold allowsNull
  split
  · simp_all
  · rename_i hnone
    simpa using fun alternatives h => (hnone alternatives h).elim

theorem asksForValue_iff :
    d.asksForValue ↔ d.find? "default" = none ∧ ¬ d.allowsNull := by
  simp [asksForValue]

end Document

namespace Field

variable {f g : Field} {k : String}

/-! ## Layers of a schema -/

/-- The schema of the values of a field other than null. -/
def plainSchema (f : Field) : Document :=
  if f.isArray then .object [("type", text "array"), ("items", f.type.schema)] else f.type.schema

/-- What a schema says of a field beside its values. -/
def remarks (f : Field) : List (String × Document) :=
  textEntry "description" f.description ++
    (if f.hasDefault then [("default", f.literal f.default)] else []) ++
    (if f.sample = "" then [] else [("examples", .list [f.literal f.sample])])

theorem plainSchema_eq (f : Field) : f.plainSchema = .object f.plainSchema.entries := by
  unfold plainSchema
  cases f.isArray with
  | true => rfl
  | false =>
    cases f.type with
    | primitive p => cases p <;> rfl
    | _ => rfl

theorem find?_plainSchema_eq_none (hk : k ∉ ["type", "format", "$ref", "items"]) :
    f.plainSchema.find? k = none := by
  simp only [List.mem_cons, List.not_mem_nil, or_false, not_or] at hk
  unfold plainSchema
  cases f.isArray with
  | true => simp [find?_eq_lookup, entries, lookup_cons, hk]
  | false =>
    cases f.type with
    | primitive p =>
      cases p <;> simp [find?_eq_lookup, entries, lookup_cons, hk, TypeRef.schema, Primitive.schema]
    | _ => simp [find?_eq_lookup, entries, lookup_cons, hk, TypeRef.schema, OpenApi.reference]

theorem valueSchema_eq (f : Field) :
    f.valueSchema = if f.isNullable then
        [("anyOf", .list [f.plainSchema, .object [("type", text "null")]])]
      else f.plainSchema.entries := by
  have hplain := plainSchema_eq f
  unfold plainSchema at hplain ⊢
  unfold valueSchema
  simp only
  rw [hplain]
  cases f.isNullable <;> rfl

theorem find?_schema (f : Field) (k : String) :
    f.schema.find? k = (f.valueSchema.lookup k).or (f.remarks.lookup k) := by
  rw [find?_eq_lookup, schema, entries, List.append_assoc, List.append_assoc, List.lookup_append,
    remarks, List.append_assoc]

theorem lookup_remarks (f : Field) (k : String) : f.remarks.lookup k =
    ((if k = "description" ∧ f.description ≠ "" then some (text f.description) else none).or
      (if k = "default" ∧ f.hasDefault then some (f.literal f.default) else none)).or
      (if k = "examples" ∧ f.sample ≠ "" then some (.list [f.literal f.sample]) else none) := by
  rw [remarks, ← ite_not (p := f.sample = ""), List.lookup_append, List.lookup_append,
    lookup_textEntry, lookup_ite, lookup_ite]

theorem lookup_remarks_of_notMem (hk : k ∉ ["description", "default", "examples"]) :
    f.remarks.lookup k = none := by
  simp only [List.mem_cons, List.not_mem_nil, or_false, not_or] at hk
  simp [lookup_remarks, hk]

theorem lookup_valueSchema_eq_none (hk : k ∉ ["type", "format", "$ref", "items", "anyOf"]) :
    f.valueSchema.lookup k = none := by
  rw [valueSchema_eq]
  split
  · rw [lookup_cons, if_neg (by simp_all)]
    rfl
  · rw [← find?_eq_lookup]
    exact find?_plainSchema_eq_none (by simp_all)

theorem textAt?_description (f : Field) :
    f.schema.textAt? "description" = if f.description ≠ "" then some f.description else none := by
  rw [textAt?, find?_schema, lookup_valueSchema_eq_none (by decide), lookup_remarks]
  by_cases hd : f.description = "" <;> simp [hd, text?]

theorem isSome_find?_default (f : Field) : (f.schema.find? "default").isSome = f.hasDefault := by
  rw [find?_schema, lookup_valueSchema_eq_none (by decide), lookup_remarks]
  cases f.hasDefault <;> simp

theorem find?_anyOf (f : Field) : f.schema.find? "anyOf" =
    if f.isNullable then some (.list [f.plainSchema, .object [("type", text "null")]])
    else none := by
  rw [find?_schema, lookup_remarks_of_notMem (by decide), Option.or_none, valueSchema_eq]
  split
  · rfl
  · rw [← find?_eq_lookup]
    exact find?_plainSchema_eq_none (by decide)

theorem find?_schema_of_isNullable_eq_false (hf : f.isNullable = false)
    (hk : k ∈ ["type", "format", "$ref", "items"]) : f.schema.find? k = f.plainSchema.find? k := by
  have hdisjoint : ∀ k ∈ ["type", "format", "$ref", "items"],
      k ∉ ["description", "default", "examples"] := by decide
  rw [find?_schema, lookup_remarks_of_notMem (hdisjoint k hk), Option.or_none, valueSchema_eq,
    if_neg (by simp [hf]), find?_eq_lookup]

/-! ## Alike schemas -/

/-- Fields with alike schemas are both nullable or both not. -/
theorem isNullable_eq_of_alike (h : f.schema.Alike g.schema) : f.isNullable = g.isNullable := by
  have hsome := h.isSome_find?_eq "anyOf"
  rw [find?_anyOf, find?_anyOf] at hsome
  cases hf : f.isNullable <;> cases hg : g.isNullable <;> simp_all

/-- **Fields with alike schemas have alike schemas inside.** -/
theorem alike_plainSchema (h : f.schema.Alike g.schema) : f.plainSchema.Alike g.plainSchema := by
  have hnull := isNullable_eq_of_alike h
  cases hf : f.isNullable with
  | true =>
    have hany := h.find? "anyOf"
    rw [find?_anyOf, find?_anyOf, ← hnull, hf] at hany
    cases hany with
    | some hany =>
    cases hany with
    | list halternatives => exact (List.forall₂_cons.mp halternatives).1
  | false =>
    rw [plainSchema_eq f, plainSchema_eq g]
    refine .object fun k => ?_
    rw [← find?_eq_lookup, ← find?_eq_lookup]
    by_cases hk : k ∈ ["type", "format", "$ref", "items"]
    · have hfind := h.find? k
      rwa [find?_schema_of_isNullable_eq_false hf hk,
        find?_schema_of_isNullable_eq_false (hnull ▸ hf) hk] at hfind
    · rw [find?_plainSchema_eq_none hk, find?_plainSchema_eq_none hk]
      exact .none

end Field

/-- The types are the same up to resolution: the same primitive, or references that spell the same
name. -/
structure TypeRef.SpelledAlike (a b : TypeRef) : Prop where
  primitive : a.primitive? = b.primitive?
  name : a.name = b.name

/-- Primitives are told apart by the texts of their schemas. -/
theorem Primitive.eq_of_textAt? {p q : Primitive}
    (htype : p.schema.textAt? "type" = q.schema.textAt? "type")
    (hformat : p.schema.textAt? "format" = q.schema.textAt? "format") : p = q := by
  cases p <;> cases q <;> first
    | rfl
    | exact absurd htype (by decide)
    | exact absurd hformat (by decide)

theorem TypeRef.textAt?_reference (t : TypeRef) : t.schema.textAt? "$ref" =
    if t.primitive?.isSome then none else some (OpenApi.schemaPath ++ t.name) := by
  cases t with
  | primitive p => cases p <;> rfl
  | _ => rfl

/-- **Types with alike schemas are the same up to resolution.** -/
theorem TypeRef.spelledAlike_of_alike {a b : TypeRef} (h : a.schema.Alike b.schema) :
    a.SpelledAlike b := by
  have href := h.textAt?_eq "$ref"
  rw [textAt?_reference, textAt?_reference] at href
  cases ha : a.primitive? with
  | none =>
    cases hb : b.primitive? with
    | none =>
      rw [ha, hb] at href
      exact ⟨ha.trans hb.symm, by simpa using href⟩
    | some q => simp [ha, hb] at href
  | some p =>
    cases hb : b.primitive? with
    | none => simp [ha, hb] at href
    | some q =>
      obtain rfl : a = .primitive p := by
        cases a <;> simp_all [primitive?]
      obtain rfl : b = .primitive q := by
        cases b <;> simp_all [primitive?]
      obtain rfl := Primitive.eq_of_textAt? (h.textAt?_eq "type") (h.textAt?_eq "format")
      exact ⟨rfl, rfl⟩

namespace Field

variable {f g : Field}

theorem find?_items (f : Field) :
    f.plainSchema.find? "items" = if f.isArray then some f.type.schema else none := by
  unfold plainSchema
  split
  · rfl
  · cases f.type with
    | primitive p => cases p <;> rfl
    | _ => rfl

/-- The type inside and whether there is a list around it. -/
theorem alike_schema_type (h : f.plainSchema.Alike g.plainSchema) :
    f.isArray = g.isArray ∧ f.type.schema.Alike g.type.schema := by
  have hitems := h.find? "items"
  have hsome := h.isSome_find?_eq "items"
  rw [find?_items, find?_items] at hitems hsome
  have harray : f.isArray = g.isArray := by
    cases hf : f.isArray <;> cases hg : g.isArray <;> simp_all
  refine ⟨harray, ?_⟩
  rw [← harray] at hitems
  cases hf : f.isArray with
  | true =>
    rw [hf] at hitems
    cases hitems with
    | some h => exact h
  | false => rwa [plainSchema, plainSchema, ← harray, hf] at h

theorem description_eq_of_alike (h : f.schema.Alike g.schema) : f.description = g.description := by
  have htext := h.textAt?_eq "description"
  rw [textAt?_description, textAt?_description] at htext
  by_cases hf : f.description = "" <;> by_cases hg : g.description = "" <;> simp_all

theorem hasDefault_eq_of_alike (h : f.schema.Alike g.schema) : f.hasDefault = g.hasDefault := by
  rw [← isSome_find?_default, ← isSome_find?_default, h.isSome_find?_eq]

/-! ## Values that must be given -/

theorem allowsNull_schema (f : Field) : f.schema.allowsNull = f.isNullable := by
  rw [allowsNull, find?_anyOf]
  cases f.isNullable with
  | true => simp [textAt?, find?_eq_lookup, entries, text?]
  | false => rfl

theorem asksForValue_schema (f : Field) : f.schema.asksForValue = f.isRequired := by
  rw [asksForValue, allowsNull_schema, isRequired, ← isSome_find?_default, Bool.and_comm]
  cases f.schema.find? "default" <;> rfl

/-- **The schema of a field is faithful.**  Fields whose schemas are the same up to the order of
entries are lists both or neither, may be null both or neither, have the same type up to resolution,
the same description, and a default both or neither.  And a value of a field must be given if and
only if its schema has no default and no alternative that is null, which is how the required fields
of an object are found. -/
theorem schema_faithful :
    (∀ f g : Field, f.schema.Alike g.schema →
      f.isArray = g.isArray ∧ f.isNullable = g.isNullable ∧ f.type.SpelledAlike g.type ∧
        f.description = g.description ∧ f.hasDefault = g.hasDefault ∧
        f.isRequired = g.isRequired) ∧
    (∀ f : Field, f.isRequired ↔
      f.schema.find? "default" = none ∧
        ¬ ∃ alternatives, f.schema.find? "anyOf" = some (.list alternatives) ∧
          ∃ a ∈ alternatives, a.textAt? "type" = some "null") ∧
    ∀ fields : List Field,
      requiredTags fields = (fields.filter (·.schema.asksForValue)).map tag := by
  refine ⟨fun f g h => ?_, fun f => ?_, fun fields => ?_⟩
  · have hplain := alike_plainSchema h
    obtain ⟨harray, htype⟩ := alike_schema_type hplain
    have hnull := isNullable_eq_of_alike h
    have hdefault := hasDefault_eq_of_alike h
    exact ⟨harray, hnull, TypeRef.spelledAlike_of_alike htype, description_eq_of_alike h, hdefault,
      by rw [isRequired, isRequired, hnull, hdefault]⟩
  · rw [← asksForValue_schema, asksForValue_iff, allowsNull_iff]
  · simp only [requiredTags, asksForValue_schema]

/-- A list that may be null, of a type that is not settled yet. -/
def homeAddresses : Field where
  name := "home"
  type := .named "Address"
  default := "none"
  modifiers := [.array, .nullable]

/-- The same for another name, with a settled type and a modifier twice. -/
def workAddresses : Field where
  name := "work"
  type := .object "Address"
  default := "none"
  modifiers := [.nullable, .array, .array]

theorem schema_faithful_addresses :
    homeAddresses.schema.Alike workAddresses.schema ∧
      homeAddresses.isArray = workAddresses.isArray ∧
      homeAddresses.isNullable = workAddresses.isNullable ∧
      homeAddresses.type.SpelledAlike workAddresses.type ∧
      homeAddresses.hasDefault = workAddresses.hasDefault := by
  have halike : homeAddresses.schema.Alike workAddresses.schema := .refl homeAddresses.schema
  obtain ⟨harray, hnull, htype, -, hdefault, -⟩ :=
    schema_faithful.1 homeAddresses workAddresses halike
  exact ⟨halike, harray, hnull, htype, hdefault⟩

end Field

end ServiceSpec
