import ServiceSpec.Proofs.DerivedNames
import ServiceSpec.Proofs.RequestErrors
import ServiceSpec.Proofs.Validation

/-!
# Error objects mirror what they report on

An error object has one field for each field it reports on, in the same order.  Such a field says
where an error is and nothing else: it keeps name and description, may always be left out, and has
neither a default nor a sample value.  What it holds depends on one question only, whether the field
it reports on refers to a known object.  If so, it refers to the error object of that object, in a
list where the field holds a list.  If not, it is a single field error, for a list as well.

References to error objects are made while the objects they lead to are still being built, in a
cycle even to the object they stand in.  They lead somewhere all the same: a name is taken before
the fields of its object are followed, and once the run is over every name that was taken is that of
a known object or of an error object.

The builder looks up known objects by name.  So the law below is about known objects with distinct
names; of two objects that share a name, one would never be found.

## Main definitions

* `Field.MirroredBy`: the field that reports the errors of another one
* `RequestErrors.Faithful`: error objects that mirror known objects and bodies, and refer to what is
  there

## Main results

* `Field.mirroredBy_iff`: the error shape of a field is the one field that mirrors it
* `RequestErrors.faithful_ofEndpoints`: the error objects of any sequence of endpoints are faithful
-/

namespace ServiceSpec

variable {known : List Object} {f m : Field} {o : Object}

/-! ## Fields that refer to known objects -/

theorem TypeRef.objectName?_eq_some_iff {t : TypeRef} {n : String} :
    t.objectName? = some n ↔ t = .object n := by
  cases t <;> simp [objectName?]

/-- A field refers to a known object by its name, if no two of them share it. -/
theorem nestedObject?_eq_some_iff (hn : (known.map (·.name)).Nodup) :
    nestedObject? known f = some o ↔ o ∈ known ∧ f.type = .object o.name := by
  rw [nestedObject?, Option.bind_eq_some_iff]
  simp only [TypeRef.objectName?_eq_some_iff, find?_key_eq_some_iff hn]
  constructor
  · rintro ⟨n, htype, hmem, rfl⟩
    exact ⟨hmem, htype⟩
  · rintro ⟨hmem, htype⟩
    exact ⟨o.name, htype, hmem, rfl⟩

/-- A field refers to no known object if its type is the name of none. -/
theorem nestedObject?_eq_none_iff :
    nestedObject? known f = none ↔ ∀ o ∈ known, f.type ≠ .object o.name := by
  rw [nestedObject?, Option.bind_eq_none_iff]
  simp only [TypeRef.objectName?_eq_some_iff, List.find?_eq_none, decide_eq_true_eq]
  constructor
  · intro h o ho htype
    exact h o.name htype o ho rfl
  · rintro h n htype o ho rfl
    exact h o ho htype

/-! ## Mirrored fields -/

/-- The field `m` reports the errors of the field `f`.  It may be left out whatever `f` is, and is a
list only where `f` is a list of a known object. -/
structure Field.MirroredBy (known : List Object) (f m : Field) : Prop where
  name : m.name = f.name
  description : m.description = f.description
  default : m.default = ""
  sample : m.sample = ""
  modifiers : m.modifiers = if m.isArray then [.array, .nullable] else [.nullable]
  nested : ∀ o ∈ known, f.type = .object o.name →
    m.type = .object (Standard.requestErrorName o.name) ∧ m.isArray = f.isArray
  leaf : (∀ o ∈ known, f.type ≠ .object o.name) →
    m.type = .object Standard.errorField ∧ m.isArray = false

attribute [ext] Field

theorem Field.mirroredBy_errorShape (hn : (known.map (·.name)).Nodup) (f : Field) :
    f.MirroredBy known (f.errorShape known) := by
  cases hnested : nestedObject? known f with
  | none =>
    have hleaf := nestedObject?_eq_none_iff.mp hnested
    rw [errorShape, hnested]
    exact ⟨rfl, rfl, rfl, rfl, rfl, fun o ho htype => absurd htype (hleaf o ho),
      fun _ => ⟨rfl, rfl⟩⟩
  | some o =>
    obtain ⟨ho, htype⟩ := (nestedObject?_eq_some_iff hn).mp hnested
    rw [errorShape, hnested]
    refine ⟨rfl, rfl, rfl, rfl, ?_, ?_, fun hleaf => absurd htype (hleaf o ho)⟩
    · cases hlist : f.isArray <;> rfl
    · intro a _ hatype
      have hname : o.name = a.name := TypeRef.object.inj (htype.symm.trans hatype)
      constructor
      · show TypeRef.object (Standard.requestErrorName o.name) = _
        rw [hname]
      · cases hlist : f.isArray <;> rfl

/-- **The error shape of a field is the one field that mirrors it.** -/
theorem Field.mirroredBy_iff (hn : (known.map (·.name)).Nodup) :
    f.MirroredBy known m ↔ m = f.errorShape known := by
  constructor
  · intro h
    have h' := f.mirroredBy_errorShape hn
    have hheld : m.type = (f.errorShape known).type ∧
        m.isArray = (f.errorShape known).isArray := by
      by_cases hleaf : ∀ o ∈ known, f.type ≠ .object o.name
      · rw [(h.leaf hleaf).1, (h.leaf hleaf).2, (h'.leaf hleaf).1, (h'.leaf hleaf).2]
        exact ⟨rfl, rfl⟩
      · simp only [not_forall, not_not] at hleaf
        obtain ⟨o, ho, htype⟩ := hleaf
        rw [(h.nested o ho htype).1, (h.nested o ho htype).2, (h'.nested o ho htype).1,
          (h'.nested o ho htype).2]
        exact ⟨rfl, rfl⟩
    apply Field.ext
    · exact h.name.trans h'.name.symm
    · exact h.description.trans h'.description.symm
    · exact hheld.1
    · exact h.default.trans h'.default.symm
    · exact h.sample.trans h'.sample.symm
    · rw [h.modifiers, h'.modifiers, hheld.2]
  · rintro rfl
    exact f.mirroredBy_errorShape hn

/-- The error object of a source mirrors its body, field for field. -/
theorem ErrorSource.mirrored_shape (hn : (known.map (·.name)).Nodup) (src : ErrorSource) :
    List.Forall₂ (Field.MirroredBy known) src.body (src.shape known).fields := by
  rw [src.fields_shape, List.forall₂_map_right_iff, List.forall₂_same]
  exact fun f _ => (Field.mirroredBy_iff hn).mpr rfl

namespace RequestErrors

/-! ## Faithful error objects -/

/-- The error objects mirror known objects and bodies of endpoints, have names of their own, and
refer to field errors and to error objects that are there. -/
structure Faithful (known : List Object) (endpoints : List (Resource × Endpoint))
    (errors : List Object) : Prop where
  nodup : (errors.map (·.name)).Nodup
  fresh : ∀ x ∈ errors, x.name ∉ known.map (·.name)
  mirrors : ∀ x ∈ errors,
    (∃ o ∈ known, x.name = Standard.requestErrorName o.name ∧
      List.Forall₂ (Field.MirroredBy known) o.fields x.fields) ∨
    ∃ re ∈ endpoints, re.2.hasBody ∧
      x.name = Standard.requestErrorName (re.1.name ++ re.2.name) ∧
        List.Forall₂ (Field.MirroredBy known) re.2.request.bodyParams x.fields
  closed : ∀ x ∈ errors, ∀ f ∈ x.fields,
    f.type = .object Standard.errorField ∨ ∃ o ∈ known,
      f.type = .object (Standard.requestErrorName o.name) ∧
        (Standard.requestErrorName o.name ∈ known.map (·.name) ∨
          Standard.requestErrorName o.name ∈ errors.map (·.name))

/-- **The error objects of any sequence of endpoints are faithful**, if known objects have distinct
names. -/
theorem faithful_ofEndpoints (known : List Object) (endpoints : List (Resource × Endpoint))
    (hn : (known.map (·.name)).Nodup) :
    Faithful known endpoints (ofEndpoints known endpoints) where
  nodup := nodup_names_ofEndpoints known endpoints
  fresh x hx := name_notMem_known (List.mem_map_of_mem hx)
  mirrors x hx := by
    obtain ⟨src, ⟨o, ho, rfl⟩ | ⟨re, hre, hb, rfl⟩, rfl⟩ := exists_source_of_mem hx
    · exact .inl ⟨o, ho, rfl, (ErrorSource.object o).mirrored_shape hn⟩
    · exact .inr ⟨re, hre, hb, rfl, (ErrorSource.endpoint re.1 re.2).mirrored_shape hn⟩
  closed x hx f hf := ofEndpoints_closed hx hf

/-- Objects that refer to themselves, to each other, and to one whose error name is known. -/
def outline : List Object :=
  [{ name := "Section"
     fields :=
       [{ name := "title", type := .primitive .string, default := "Untitled" },
        { name := "parts", type := .object "Section", modifiers := [.array] },
        { name := "author", type := .object "Author" }] },
   { name := "Author"
     fields :=
       [{ name := "names", type := .primitive .string, modifiers := [.array] },
        { name := "sections", type := .object "Section", modifiers := [.array, .nullable] },
        { name := "address", type := .object "Address" }] },
   { name := "Address" },
   { name := "AddressRequestError" }]

/-- Two endpoints whose bodies refer to the objects of an outline. -/
def drafting : List (Resource × Endpoint) :=
  [({ name := "Draft" },
    { name := "Create"
      method := .post
      request := { bodyParams := [{ name := "root", type := .object "Section" }] } }),
   ({ name := "Draft" },
    { name := "Sign"
      method := .post
      request := { bodyParams := [{ name := "by", type := .object "Author" }] } })]

theorem faithful_outline :
    (outline.map (·.name)).Nodup ∧
      (ofEndpoints outline drafting).map (·.name) =
        ["AuthorRequestError", "SectionRequestError", "DraftCreateRequestError",
          "DraftSignRequestError"] ∧
      Faithful outline drafting (ofEndpoints outline drafting) := by
  have hn : (outline.map (·.name)).Nodup := by decide +kernel
  exact ⟨hn, by decide +kernel, faithful_ofEndpoints outline drafting hn⟩

end RequestErrors

end ServiceSpec
