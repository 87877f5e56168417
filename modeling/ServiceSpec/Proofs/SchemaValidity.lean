import Mathlib.Data.List.Basic
import ServiceSpec.Decimal.Shortest
import ServiceSpec.Form.Schema
import ServiceSpec.Proofs.Documents

/-!
# Validity under a schema

The meaning of JSON Schema, draft 2020-12, for the keywords that published schemas use.  A schema is
a document too.  Each of its entries is a keyword with an argument, and a value is valid if every
keyword finds it so; a keyword that is about other values, and one that only describes, finds every
value valid.

References make schemas recursive, so a verdict is found within a depth, and what is not found out
within the depth is left open.  A value is admitted if some depth finds it valid.

## Main definitions

* `Document.types`: the types a value has
* `Schema.verdict`: what a keyword says of a value
* `Schema.judge`: what a schema says of a value, within a depth
* `Schema.Admits`: a value is valid

## Main results

* `Schema.judge_mono`, `Schema.admits_iff_of_judge`: a verdict does not change with the depth
* `Schema.Admits.verdict`, `Schema.Admits.of_subset`: a valid value is valid under every keyword
* `Schema.Admits.reference`, `Schema.Admits.orNull`, …: what single keywords say of a valid value
-/

namespace ServiceSpec

/-- The number that a finite floating point number is. -/
def Binary.value? (x : Float) : Option Rat :=
  let bits := x.toBits.toNat
  let fraction := scaled (ofBits bits).significand (ofBits bits).exponent 0
  let magnitude := mkRat fraction.1 fraction.2
  if bits / Nat.pow 2 52 % Nat.pow 2 11 = 2047 then none
  else some (if bits < Nat.pow 2 63 then magnitude else -magnitude)

namespace Document

/-- The number that a document is. -/
def number? : Document → Option Rat
  | integer n => some n
  | float x => Binary.value? x
  | _ => none

/-- The types of a value.  A number without a fraction is an integer, however it is written. -/
def types (d : Document) : List String :=
  match d with
  | null => ["null"]
  | bool _ => ["boolean"]
  | text _ => ["string"]
  | list _ => ["array"]
  | object _ => ["object"]
  | integer _ | float _ =>
    match d.number? with
    | none => []
    | some q => if q.den = 1 then ["number", "integer"] else ["number"]

/-- Whether a document is this text. -/
def isText : Document → String → Bool
  | text s, s' => s = s'
  | _, _ => false

end Document

namespace Schema

/-- What a schema says of a value: whether it is valid, or nothing yet. -/
abbrev Judge : Type :=
  Document → Document → Option Bool

/-- The verdicts on several things, as soon as there is one on each. -/
def Judge.each (judge : Judge) (l : List (Document × Document)) : Option (List Bool) :=
  l.mapM fun (schema, value) => judge schema value

/-- The schema that a pointer leads to. -/
def definition? (root : Document) (pointer : String) : Option Document :=
  match root.find? "$defs" with
  | some (.object definitions) =>
    (definitions.find? fun e => "#/$defs/" ++ e.1 = pointer).map (·.2)
  | _ => none

/-- The values in an object that schemas in another one are for. -/
def underSameKey (schemas entries : List (String × Document)) : List (Document × Document) :=
  schemas.flatMap fun p => (entries.filter (·.1 = p.1)).map fun e => (p.2, e.2)

/-- What a keyword says of a value. -/
def verdict (judge : Judge) (root : Document) (key : String) (argument value : Document) :
    Option Bool :=
  match key with
  | "$ref" =>
    match argument with
    | .text pointer => (definition? root pointer).bind (judge · value)
    | _ => none
  | "type" =>
    match argument with
    | .list names => some (names.any fun name => value.types.any name.isText)
    | name => some (value.types.any name.isText)
  | "const" =>
    match value with
    | .text s => some (argument.isText s)
    | _ => some false
  | "enum" =>
    match argument, value with
    | .list values, .text s => some (values.any (·.isText s))
    | _, _ => some false
  | "minLength" =>
    match argument, value with
    | .integer n, .text s => some (n ≤ s.length)
    | _, _ => some true
  | "minimum" =>
    match argument.number?, value.number? with
    | some least, some q => some (least ≤ q)
    | _, _ => some true
  | "maximum" =>
    match argument.number?, value.number? with
    | some most, some q => some (q ≤ most)
    | _, _ => some true
  | "anyOf" =>
    match argument with
    | .list schemas => (judge.each (schemas.map (·, value))).map (·.any id)
    | _ => none
  | "oneOf" =>
    match argument with
    | .list schemas => (judge.each (schemas.map (·, value))).map (·.count true = 1)
    | _ => none
  | "items" =>
    match value with
    | .list items => (judge.each (items.map (argument, ·))).map (·.all id)
    | _ => some true
  | "properties" =>
    match argument, value with
    | .object schemas, .object entries =>
      (judge.each (underSameKey schemas entries)).map (·.all id)
    | _, _ => some true
  | "required" =>
    match argument, value with
    | .list names, .object entries => some (names.all fun name => entries.any (name.isText ·.1))
    | _, _ => some true
  | _ => some true

/-- What a schema says of a value, within a depth. -/
def judge (root : Document) : Nat → Judge
  | 0, _, _ => none
  | _ + 1, .bool b, _ => some b
  | depth + 1, .object keywords, value =>
    (keywords.mapM fun k => verdict (judge root depth) root k.1 k.2 value).map (·.all id)
  | _ + 1, _, _ => none

/-- A value is valid under a schema, whose references are to the definitions in a root. -/
def Admits (root schema value : Document) : Prop :=
  ∃ depth, judge root depth schema value = some true

end Schema

/-- A document is valid under a schema. -/
def Document.IsValid (schema d : Document) : Prop :=
  Schema.Admits schema schema d

/-! ## Verdicts on several things -/

section

variable {γ : Type} {f g : γ → Option Bool} {l : List γ}

theorem mapM_all_iff : (l.mapM f).map (·.all id) = some true ↔ ∀ x ∈ l, f x = some true := by
  induction l with
  | nil => simp
  | cons x rest ih =>
    rw [List.mapM_cons, List.forall_mem_cons, ← ih]
    cases f x with
    | none => simp
    | some b => cases hrest : rest.mapM f <;> simp

theorem mapM_eq_some_iff {bs : List Bool} :
    l.mapM f = some bs ↔ List.Forall₂ (f · = some ·) l bs := by
  induction l generalizing bs with
  | nil => simp [eq_comm]
  | cons x rest ih =>
    rw [List.mapM_cons, List.forall₂_cons_left_iff]
    simp only [← ih, Option.bind_eq_bind, Option.bind_eq_some_iff, Option.pure_def,
      Option.some.injEq]
    constructor
    · rintro ⟨b, hb, bs', hbs', rfl⟩
      exact ⟨b, bs', hb, hbs', rfl⟩
    · rintro ⟨b, bs', hb, hbs', rfl⟩
      exact ⟨b, hb, bs', hbs', rfl⟩

theorem mapM_mono (h : ∀ x b, f x = some b → g x = some b) {bs : List Bool}
    (hf : l.mapM f = some bs) : l.mapM g = some bs :=
  mapM_eq_some_iff.mpr ((mapM_eq_some_iff.mp hf).imp fun _ _ => h _ _)

theorem exists_of_mapM {bs : List Bool} (h : l.mapM f = some bs) (hb : true ∈ bs) :
    ∃ x ∈ l, f x = some true := by
  obtain ⟨i, hi, hib⟩ := List.mem_iff_getElem.mp hb
  have hforall := mapM_eq_some_iff.mp h
  have hlength := hforall.length_eq
  refine ⟨l[i], List.getElem_mem _, ?_⟩
  have := hforall.get (by omega) hi
  simpa [hib] using this

end

/-! ## Verdicts and depth -/

namespace Schema

/-- One judge says no less than another. -/
def Judge.Extends (judge' judge : Judge) : Prop :=
  ∀ schema value b, judge schema value = some b → judge' schema value = some b

theorem Judge.Extends.each {judge judge' : Judge} (h : judge'.Extends judge)
    {l : List (Document × Document)} {combine : List Bool → Bool} {b : Bool}
    (hb : (judge.each l).map combine = some b) : (judge'.each l).map combine = some b := by
  obtain ⟨bs, hbs, rfl⟩ := Option.map_eq_some_iff.mp hb
  have : judge'.each l = some bs := mapM_mono (fun p b => h p.1 p.2 b) hbs
  rw [this]
  rfl

theorem Judge.Extends.verdict {judge judge' : Judge} (h : judge'.Extends judge)
    {root argument value : Document} {key : String} {b : Bool}
    (hb : Schema.verdict judge root key argument value = some b) :
    Schema.verdict judge' root key argument value = some b := by
  revert hb
  unfold Schema.verdict
  split <;> intro hb
  -- most keywords do not ask for other verdicts, and a reference asks for one
  case h_1 =>
    split at hb
    · obtain ⟨schema, hschema, hjudge⟩ := Option.bind_eq_some_iff.mp hb
      exact Option.bind_eq_some_iff.mpr ⟨schema, hschema, h _ _ _ hjudge⟩
    · cases hb
  all_goals first
    | exact hb
    | split at hb <;> first | exact h.each hb | exact hb

theorem judge_succ_extends (root : Document) (depth : Nat) :
    (judge root (depth + 1)).Extends (judge root depth) := by
  induction depth with
  | zero => exact fun schema value b h => nomatch h
  | succ depth ih =>
    intro schema value b h
    cases schema with
    | bool _ => exact h
    | object keywords =>
      obtain ⟨bs, hbs, rfl⟩ := Option.map_eq_some_iff.mp h
      rw [judge, mapM_mono (fun k b => ih.verdict) hbs]
      rfl
    | _ => cases h

/-- A verdict does not change with the depth. -/
theorem judge_mono {root schema value : Document} {depth depth' : Nat} {b : Bool}
    (hle : depth ≤ depth') (h : judge root depth schema value = some b) :
    judge root depth' schema value = some b := by
  induction hle with
  | refl => exact h
  | step _ ih => exact judge_succ_extends root _ _ _ _ ih

/-- A verdict within some depth decides whether a value is admitted. -/
theorem admits_iff_of_judge {root schema value : Document} {depth : Nat} {b : Bool}
    (h : judge root depth schema value = some b) : Admits root schema value ↔ b = true := by
  constructor
  · rintro ⟨depth', h'⟩
    have heq := (judge_mono (Nat.le_max_left depth depth') h).symm.trans
      (judge_mono (Nat.le_max_right depth depth') h')
    exact Option.some.inj heq
  · rintro rfl
    exact ⟨depth, h⟩

end Schema

/-- What stands under a key is the value of the first entry with it. -/
theorem lookup_eq_map_find? {β : Type} (k : String) (es : List (String × β)) :
    es.lookup k = (es.find? (·.1 = k)).map (·.2) := by
  induction es with
  | nil => rfl
  | cons e rest ih =>
    rw [lookup_cons, List.find?_cons, ih]
    by_cases hk : k = e.1
    · simp [hk]
    · simp [hk, Ne.symm hk]

/-! ## Types of values -/

namespace Document

variable {d : Document}

theorem types_integer (n : Int) : (integer n).types = ["number", "integer"] := by
  simp [types, number?]

theorem types_float (x : Float) : (float x).types ⊆ ["number", "integer"] := by
  unfold types
  dsimp only
  split
  · simp
  · split <;> simp

theorem eq_null_of_mem_types (h : "null" ∈ d.types) : d = null := by
  cases d with
  | null => rfl
  | integer n => simp [types_integer] at h
  | float x => simpa using types_float x h
  | _ => simp [types] at h

theorem eq_bool_of_mem_types (h : "boolean" ∈ d.types) : ∃ b, d = bool b := by
  cases d with
  | bool b => exact ⟨b, rfl⟩
  | integer n => simp [types_integer] at h
  | float x => simpa using types_float x h
  | _ => simp [types] at h

theorem eq_text_of_mem_types (h : "string" ∈ d.types) : ∃ s, d = text s := by
  cases d with
  | text s => exact ⟨s, rfl⟩
  | integer n => simp [types_integer] at h
  | float x => simpa using types_float x h
  | _ => simp [types] at h

theorem eq_list_of_mem_types (h : "array" ∈ d.types) : ∃ items, d = list items := by
  cases d with
  | list items => exact ⟨items, rfl⟩
  | integer n => simp [types_integer] at h
  | float x => simpa using types_float x h
  | _ => simp [types] at h

theorem eq_object_of_mem_types (h : "object" ∈ d.types) : ∃ entries, d = object entries := by
  cases d with
  | object entries => exact ⟨entries, rfl⟩
  | integer n => simp [types_integer] at h
  | float x => simpa using types_float x h
  | _ => simp [types] at h

theorem eq_number_of_mem_types (h : "integer" ∈ d.types) :
    (∃ n, d = integer n) ∨ ∃ x, d = float x := by
  cases d with
  | integer n => exact .inl ⟨n, rfl⟩
  | float x => exact .inr ⟨x, rfl⟩
  | _ => simp [types] at h

end Document

/-! ## Keywords of valid values -/

namespace Schema.Admits

variable {root d schema : Document} {keywords : List (String × Document)} {name : String}

theorem verdict (h : Admits root (.object keywords) d) {key : String} {argument : Document}
    (hk : (key, argument) ∈ keywords) :
    ∃ depth, Schema.verdict (judge root depth) root key argument d = some true := by
  obtain ⟨depth, hd⟩ := h
  cases depth with
  | zero => cases hd
  | succ depth =>
    rw [judge, mapM_all_iff] at hd
    exact ⟨depth, hd _ hk⟩

/-- A value is valid under fewer keywords too. -/
theorem of_subset {fewer : List (String × Document)} (h : Admits root (.object keywords) d)
    (hsub : fewer ⊆ keywords) : Admits root (.object fewer) d := by
  obtain ⟨depth, hd⟩ := h
  cases depth with
  | zero => cases hd
  | succ depth =>
    refine ⟨depth + 1, ?_⟩
    rw [judge, mapM_all_iff] at hd ⊢
    exact fun k hk => hd k (hsub hk)

theorem type (h : Admits root (.object keywords) d) (hk : ("type", .text name) ∈ keywords) :
    name ∈ d.types := by
  obtain ⟨depth, hd⟩ := h.verdict hk
  simpa [Schema.verdict, Document.isText] using hd

theorem const (h : Admits root (.object keywords) d) (hk : ("const", .text name) ∈ keywords) :
    d = .text name := by
  obtain ⟨depth, hd⟩ := h.verdict hk
  cases d <;> simp_all [Schema.verdict, Document.isText]

theorem enum {names : List String} (h : Admits root (.object keywords) d)
    (hk : ("enum", Document.texts names) ∈ keywords) : ∃ s ∈ names, d = .text s := by
  obtain ⟨depth, hd⟩ := h.verdict hk
  cases d <;> simp_all [Schema.verdict, Document.isText, Document.texts]

theorem minimum {least n : Int} (h : Admits root (.object keywords) (.integer n))
    (hk : ("minimum", .integer least) ∈ keywords) : least ≤ n := by
  obtain ⟨depth, hd⟩ := h.verdict hk
  have hle : (least : Rat) ≤ n := by simpa [Schema.verdict, Document.number?] using hd
  exact Rat.intCast_le_intCast.mp hle

theorem maximum {most n : Int} (h : Admits root (.object keywords) (.integer n))
    (hk : ("maximum", .integer most) ∈ keywords) : n ≤ most := by
  obtain ⟨depth, hd⟩ := h.verdict hk
  have hle : (n : Rat) ≤ most := by simpa [Schema.verdict, Document.number?] using hd
  exact Rat.intCast_le_intCast.mp hle

theorem anyOf {schemas : List Document} (h : Admits root (.object keywords) d)
    (hk : ("anyOf", .list schemas) ∈ keywords) : ∃ schema ∈ schemas, Admits root schema d := by
  obtain ⟨depth, hd⟩ := h.verdict hk
  obtain ⟨bs, hbs, hany⟩ := Option.map_eq_some_iff.mp hd
  obtain ⟨p, hp, hjudge⟩ := exists_of_mapM hbs (by simpa using hany)
  obtain ⟨schema, hschema, rfl⟩ := List.mem_map.mp hp
  exact ⟨schema, hschema, depth, hjudge⟩

theorem oneOf {schemas : List Document} (h : Admits root (.object keywords) d)
    (hk : ("oneOf", .list schemas) ∈ keywords) : ∃ schema ∈ schemas, Admits root schema d := by
  obtain ⟨depth, hd⟩ := h.verdict hk
  obtain ⟨bs, hbs, hone⟩ := Option.map_eq_some_iff.mp hd
  have hmem : true ∈ bs := List.count_pos_iff.mp (by simp at hone; omega)
  obtain ⟨p, hp, hjudge⟩ := exists_of_mapM hbs hmem
  obtain ⟨schema, hschema, rfl⟩ := List.mem_map.mp hp
  exact ⟨schema, hschema, depth, hjudge⟩

theorem items {values : List Document} (h : Admits root (.object keywords) (.list values))
    (hk : ("items", schema) ∈ keywords) : ∀ x ∈ values, Admits root schema x := by
  obtain ⟨depth, hd⟩ := h.verdict hk
  intro x hx
  exact ⟨depth, mapM_all_iff.mp hd (schema, x) (List.mem_map_of_mem hx)⟩

theorem properties {schemas entries : List (String × Document)}
    (h : Admits root (.object keywords) (.object entries))
    (hk : ("properties", .object schemas) ∈ keywords) :
    ∀ p ∈ schemas, ∀ e ∈ entries, e.1 = p.1 → Admits root p.2 e.2 := by
  obtain ⟨depth, hd⟩ := h.verdict hk
  intro p hp e he hkey
  refine ⟨depth, mapM_all_iff.mp hd (p.2, e.2) ?_⟩
  refine List.mem_flatMap.mpr ⟨p, hp, List.mem_map.mpr ⟨e, ?_, rfl⟩⟩
  simp [he, hkey]

theorem required {names : List String} {entries : List (String × Document)}
    (h : Admits root (.object keywords) (.object entries))
    (hk : ("required", Document.texts names) ∈ keywords) :
    ∀ name ∈ names, ∃ e ∈ entries, e.1 = name := by
  obtain ⟨depth, hd⟩ := h.verdict hk
  intro name hname
  have hall := List.all_eq_true.mp (Option.some.inj hd) (.text name) (List.mem_map_of_mem hname)
  obtain ⟨e, he, heq⟩ := List.any_eq_true.mp hall
  exact ⟨e, he, by simpa [Document.isText, eq_comm] using heq⟩

/-- A value that is valid under a reference is valid under the definition. -/
theorem reference {definitions : List (String × Document)}
    (hroot : root.find? "$defs" = some (.object definitions))
    (hlookup : definitions.lookup name = some schema)
    (h : Admits root (Schema.reference name) d) : Admits root schema d := by
  obtain ⟨depth, hd⟩ := h.verdict (List.mem_singleton_self _)
  obtain ⟨found, hfound, hjudge⟩ := Option.bind_eq_some_iff.mp hd
  have heq : definition? root ("#/$defs/" ++ name) = definitions.lookup name := by
    rw [lookup_eq_map_find?]
    simp only [definition?, hroot]
    simp
  rw [heq, hlookup] at hfound
  cases hfound
  exact ⟨depth, hjudge⟩

/-- A value is valid under a schema that admits null too if it is null or valid under the schema
itself. -/
theorem orNull (h : Admits root (Schema.orNull schema) d) : d = .null ∨ Admits root schema d := by
  unfold Schema.orNull at h
  split at h
  · rename_i name rest
    obtain ⟨depth, hd⟩ := h
    cases depth with
    | zero => cases hd
    | succ depth =>
      rw [judge, mapM_all_iff, List.forall_mem_cons] at hd
      obtain ⟨htype, hrest⟩ := hd
      have hor : name ∈ d.types ∨ "null" ∈ d.types := by
        simpa [Schema.verdict, Document.texts, Document.isText] using htype
      rcases hor with hname | hnull
      · refine .inr ⟨depth + 1, ?_⟩
        rw [judge, mapM_all_iff, List.forall_mem_cons]
        refine ⟨?_, hrest⟩
        simpa [Schema.verdict, Document.isText] using hname
      · exact .inl (Document.eq_null_of_mem_types hnull)
  · obtain ⟨schema, hschema, hd⟩ := h.anyOf (List.mem_singleton_self _)
    rcases List.mem_pair.mp hschema with rfl | rfl
    · exact .inr hd
    · exact .inl (Document.eq_null_of_mem_types (hd.type (List.mem_singleton_self _)))

/-- A value of a member is valid under the schema of its form. -/
theorem ofMember {α : Type} {member : Member α} {encode : α → Document}
    (h : Admits root (Schema.ofMember member encode schema) d) : Admits root schema d := by
  unfold Schema.ofMember at h
  cases schema with
  | object keywords => exact h.of_subset fun k hk => by simp [hk]
  | _ => exact h

end Schema.Admits

end ServiceSpec
