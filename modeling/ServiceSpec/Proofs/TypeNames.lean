import ServiceSpec.Proofs.JsonRoundTrip
import ServiceSpec.Proofs.NameKinds
import ServiceSpec.Proofs.ServiceRoundTrip
import ServiceSpec.Specification
import Mathlib.Data.List.DropRight

/-!
# Types that are read back

A type is written as its name.  Reading takes the white space off the name, takes it for a primitive
if it is the name of one, and leaves it open otherwise; resolution then looks for an enum of that
name, and for an object if there is none.  In a valid service a name stands for an enum or an object
and never for both, so resolution finds the type that was written as long as reading leaves its name
as it was.

That is checked nowhere.  Objects, enums and resources may be named like a primitive, or with white
space at the ends of the name, and then a reference to them is read as something else or as nothing.
Names that expansion derives are never lost in this way if the names they are derived from are not.

What is read is the text of a service, and what a text loses its types lose too.  In JSON a service
is always read from its text as it is from its document.  Of other formats this is assumed where
their text is read.

## Main definitions

* `TypeRef.LegibleName`: reading leaves the name as it is
* `TypeRef.Legible`: a type that is read from its name
* `Service.ReadsAsWritten`: the text of the service is read as its document is
* `Service.declaredNames`: the names that types can refer to, and those of resources

## Main results

* `TypeIndex.resolve_reread_iff`: a settled type is read back if and only if its name is legible
* `validateAndResolve_reread_iff`: the same for all types of a service together
* `legible_of_expand`: legible declared names make every type of an expanded service legible
* `types_reread_iff`: which types of an expanded service survive writing and reading
-/

namespace ServiceSpec

/-! ## White space -/

namespace Text

theorem toList_trim (s : String) :
    (trim s).toList = (s.toList.dropWhile isBlankChar).rdropWhile isBlankChar := by
  rw [trim, String.toList_ofList]
  rfl

/-- A text has no white space at its ends if neither its first nor its last character is blank. -/
theorem trim_eq_self_iff {s : String} :
    trim s = s ↔ s.toList.dropWhile isBlankChar = s.toList ∧
      s.toList.rdropWhile isBlankChar = s.toList := by
  rw [← String.toList_inj, toList_trim]
  constructor
  · intro h
    -- something taken off at the start would be missing in the end
    have hfront : s.toList.dropWhile isBlankChar = s.toList := by
      apply (List.dropWhile_suffix _).eq_of_length
      apply le_antisymm ((List.dropWhile_suffix _).length_le)
      calc s.toList.length
          = ((s.toList.dropWhile isBlankChar).rdropWhile isBlankChar).length := by rw [h]
        _ ≤ (s.toList.dropWhile isBlankChar).length := (List.rdropWhile_prefix _ _).length_le
    rw [hfront] at h
    exact ⟨hfront, h⟩
  · rintro ⟨hfront, hend⟩
    rw [hfront, hend]

/-- The text starts with a character that is not blank. -/
def Begins (s : String) : Prop :=
  ∃ c rest, s.toList = c :: rest ∧ ¬ isBlankChar c

theorem begins_of_trim {s : String} (ht : trim s = s) (hs : ¬ isBlank s) : Begins s := by
  cases hl : s.toList with
  | nil =>
    rw [isBlank, hl] at hs
    exact absurd rfl hs
  | cons c rest =>
    have hfront := (trim_eq_self_iff.mp ht).1
    rw [List.dropWhile_eq_self_iff] at hfront
    have hc := hfront (by simp [hl])
    simp only [hl, List.getElem_cons_zero] at hc
    exact ⟨c, rest, hl, hc⟩

theorem Begins.append {s : String} (hs : Begins s) (t : String) : Begins (s ++ t) := by
  obtain ⟨c, rest, hl, hc⟩ := hs
  exact ⟨c, rest ++ t.toList, by rw [String.toList_append, hl, List.cons_append], hc⟩

/-- A text without white space at its end has none at its ends behind a text that begins. -/
theorem trim_append {s t : String} (hs : Begins s) (ht : t ≠ "")
    (hend : t.toList.rdropWhile isBlankChar = t.toList) : trim (s ++ t) = s ++ t := by
  obtain ⟨c, rest, hl, hc⟩ := hs
  have hne : t.toList ≠ [] := by simpa using ht
  rw [List.rdropWhile_eq_self_iff] at hend
  rw [trim_eq_self_iff, String.toList_append, List.dropWhile_eq_self_iff,
    List.rdropWhile_eq_self_iff]
  constructor
  · intro _
    simpa [hl] using hc
  · intro hne'
    rw [List.getLast_append_of_ne_nil hne' hne]
    exact hend hne

end Text

/-! ## Types -/

namespace TypeRef

/-- Reading leaves the name as it is: it takes no white space off, and finds no primitive. -/
def LegibleName (n : String) : Prop :=
  Text.trim n = n ∧ Primitive.ofName? n = none

instance (n : String) : Decidable (LegibleName n) :=
  inferInstanceAs (Decidable (_ ∧ _))

/-- The type is read from its name: it is a primitive, or reading leaves its name as it is. -/
def Legible : TypeRef → Prop
  | primitive _ => True
  | object n | enum n | named n => LegibleName n

instance : DecidablePred Legible
  | primitive _ => isTrue trivial
  | object n | enum n | named n => inferInstanceAs (Decidable (LegibleName n))

theorem ofName_of_some {n : String} {p : Primitive} (h : Primitive.ofName? n = some p) :
    ofName n = primitive p := by
  rw [ofName, h]

theorem ofName_of_none {n : String} (h : Primitive.ofName? n = none) : ofName n = named n := by
  rw [ofName, h]

theorem legibleName_iff {n : String} : LegibleName n ↔ ofName (Text.trim n) = named n := by
  constructor
  · rintro ⟨ht, hp⟩
    rw [ht, ofName_of_none hp]
  · intro h
    cases hp : Primitive.ofName? (Text.trim n) with
    | some p =>
      rw [ofName_of_some hp] at h
      cases h
    | none =>
      rw [ofName_of_none hp] at h
      have ht : Text.trim n = n := named.inj h
      exact ⟨ht, ht ▸ hp⟩

@[simp] theorem reread_primitive (p : Primitive) : (primitive p).reread = primitive p := by
  cases p <;> decide

theorem not_isBlank_primitive (p : Primitive) : ¬ Text.isBlank (primitive p).name := by
  cases p <;> decide

end TypeRef

namespace TypeIndex

open TypeRef

variable {i : TypeIndex} {t : TypeRef} {n : String}

/-- A name that is resolved to more than a primitive is read as an open type. -/
theorem ofName_of_resolve (h : i.resolve (ofName n) = some t) (ht : t.primitive? = none) :
    ofName n = named t.name := by
  cases hp : Primitive.ofName? n with
  | some p =>
    rw [ofName_of_some hp] at h
    obtain rfl : primitive p = t := Option.some.inj h
    cases ht
  | none =>
    rw [ofName_of_none hp] at h ⊢
    rw [name_of_resolve h]
    rfl

/-- **A settled type is read back if and only if its name is legible**, as long as no enum has the
name of an object. -/
theorem resolve_reread_iff (hs : i.Settles t) (ha : ∀ n, t = object n → n ∉ i.enums) :
    i.resolve t.reread = some t ↔ t.Legible := by
  -- a reference is read back as the open type of its name, which resolution takes for an enum first
  cases t with
  | primitive p => simp [Legible, resolve]
  | named n => exact absurd hs not_settles_named
  | object n =>
    rw [Legible, legibleName_iff]
    constructor
    · intro h
      exact ofName_of_resolve h rfl
    · intro h
      rw [reread, name, h]
      exact resolve_named_of_object (ha n rfl) (settles_object.mp hs)
  | enum n =>
    rw [Legible, legibleName_iff]
    constructor
    · intro h
      exact ofName_of_resolve h rfl
    · intro h
      rw [reread, name, h]
      exact resolve_named_of_enum (settles_enum.mp hs)

end TypeIndex

/-! ## Services -/

namespace Service

open TypeRef

variable {s e : Service}

/-- The names of objects and enums of a valid service are not blank. -/
theorem not_isBlank_of_settles (hv : s.violations = []) {t : TypeRef}
    (ht : (TypeIndex.declared s).Settles t) : ¬ Text.isBlank t.name := by
  simp only [violations, List.append_eq_nil_iff, List.flatMap_eq_nil_iff] at hv
  obtain ⟨⟨⟨henums, hobjects⟩, -⟩, -⟩ := hv
  cases t with
  | primitive p => exact not_isBlank_primitive p
  | named n => exact absurd ht TypeIndex.not_settles_named
  | object n =>
    obtain ⟨o, ho, rfl⟩ := List.mem_map.mp (TypeIndex.settles_object.mp ht)
    have hblank := hobjects o ho
    simp only [Object.violations, List.append_eq_nil_iff] at hblank
    change ¬ Text.isBlank o.name
    simpa using hblank.1.1
  | enum n =>
    obtain ⟨x, hx, rfl⟩ := List.mem_map.mp (TypeIndex.settles_enum.mp ht)
    have hblank := henums x hx
    simp only [Enum.violations, List.append_eq_nil_iff] at hblank
    change ¬ Text.isBlank x.name
    simpa using hblank.1.1

/-- A type of a valid service that has the standard enums is read back if and only if its name is
legible. -/
theorem resolve_reread_iff (hv : s.violations = []) (he : ∀ n ∈ Standard.enums, n ∈ s.enumNames)
    {t : TypeRef} (ht : (TypeIndex.declared s).Settles t) :
    (TypeIndex.expected s).resolve t.reread = some t ↔ t.Legible := by
  apply TypeIndex.resolve_reread_iff (ht.mono (declared_sub_expected s))
  rintro n rfl hn
  have henum : n ∈ s.enumNames := (mem_expected_enums.mp hn).elim id (he n)
  exact (wellNamed_of_violations hv).apart n henum (TypeIndex.settles_object.mp ht)

/-- **A valid service that was written comes back as it was if and only if all its types are
legible.** -/
theorem validateAndResolve_reread_iff (hv : s.violations = [])
    (he : ∀ n ∈ Standard.enums, n ∈ s.enumNames) (hs : s.Settled (TypeIndex.declared s)) :
    (s.mapTypes reread).validateAndResolve = .ok s ↔
      ∀ p ∈ s.locatedFields, p.2.type.Legible := by
  have htypes := settled_iff.mp hs
  have hback : (∀ p ∈ s.locatedFields,
      (TypeIndex.expected s).resolve p.2.type.reread = some p.2.type) ↔
        ∀ p ∈ s.locatedFields, p.2.type.Legible :=
    forall₂_congr fun p hp => resolve_reread_iff hv he (htypes p hp)
  have hfirst : (s.mapTypes reread).resolve.1 =
      s.mapTypes fun t => (TypeIndex.expected s).settle t.reread := by
    rw [resolve, expected_mapTypes, fst_resolveWith, mapTypes_mapTypes]
  have hsecond : (s.mapTypes reread).resolve.2 = [] ↔
      ∀ p ∈ s.locatedFields, ((TypeIndex.expected s).resolve p.2.type.reread).isSome := by
    rw [resolve, expected_mapTypes, snd_resolveWith, rejectedTypes_eq_nil_iff,
      locatedFields_mapTypes, List.forall_mem_map]
  rw [validateAndResolve_of_valid ((violations_mapTypes _ s).trans hv), ← hback]
  constructor
  · intro h p hp
    split at h
    · rename_i hknown
      obtain ⟨u, hu⟩ := Option.isSome_iff_exists.mp (hsecond.mp hknown p hp)
      have hsame : s.mapTypes (fun t => (TypeIndex.expected s).settle t.reread) = s :=
        hfirst ▸ Except.ok.inj h
      have hsettle := mapTypes_eq_self_iff.mp hsame p hp
      rw [TypeIndex.settle, hu, Option.getD_some] at hsettle
      rw [hu, hsettle]
    · cases h
  · intro h
    have hknown : (s.mapTypes reread).resolve.2 = [] :=
      hsecond.mpr fun p hp => by rw [h p hp]; rfl
    rw [if_pos hknown, hfirst, mapTypes_eq_self]
    intro p hp
    rw [TypeIndex.settle, h p hp, Option.getD_some]

/-- A text that is read as a service stands for the one that validation and resolution make of
it. -/
theorem parse_of_read {format : SourceFormat} {source : String} (h : read format source = .ok s) :
    parse format source = s.validateAndResolve.mapError .invalid := by
  rw [parse, h]
  rfl

theorem mapError_eq_ok_iff {ε ε' α : Type} {f : ε → ε'} {x : Except ε α} {a : α} :
    x.mapError f = .ok a ↔ x = .ok a := by
  cases x <;> simp [Except.mapError]

end Service

/-! ## Names that expansion makes -/

theorem Primitive.name_of_ofName? {n : String} {p : Primitive} (h : ofName? n = some p) :
    p.name = n := by
  simpa using List.find?_some h

/-- A name with a derived suffix is legible if what is before the suffix begins. -/
theorem Standard.legibleName_derived {x a : String} (hx : Text.Begins x)
    (ha : a ∈ derivedSuffixes) : TypeRef.LegibleName (x ++ a) := by
  have hends : ∀ a ∈ derivedSuffixes,
      a ≠ "" ∧ a.toList.rdropWhile Text.isBlankChar = a.toList := by decide
  have hfree : ∀ p ∈ Primitive.all, ∀ a ∈ derivedSuffixes, ¬ a.toList <:+ p.name.toList := by
    decide
  refine ⟨Text.trim_append hx (hends a ha).1 (hends a ha).2, ?_⟩
  cases hp : Primitive.ofName? (x ++ a) with
  | none => rfl
  | some p =>
    have hsuffix : a.toList <:+ p.name.toList := by
      rw [Primitive.name_of_ofName? hp, String.toList_append]
      exact List.suffix_append ..
    exact absurd hsuffix (hfree p (List.mem_of_find?_eq_some hp) a ha)

namespace Service

open TypeRef

variable {s e : Service}

/-- The names that a service declares for enums, objects and resources. -/
def declaredNames (s : Service) : List String :=
  s.enumNames ++ s.objectNames ++ s.resources.map (·.name)

theorem not_isBlank_of_mem_declaredNames (hv : s.violations = []) {n : String}
    (hn : n ∈ s.declaredNames) : ¬ Text.isBlank n := by
  have hr := hv
  simp only [violations, List.append_eq_nil_iff, List.flatMap_eq_nil_iff] at hr
  rcases List.mem_append.mp hn with hn | hn
  · rcases List.mem_append.mp hn with hn | hn
    · exact not_isBlank_of_settles (t := .enum n) hv (TypeIndex.settles_enum.mpr hn)
    · exact not_isBlank_of_settles (t := .object n) hv (TypeIndex.settles_object.mpr hn)
  · obtain ⟨r, hmr, rfl⟩ := List.mem_map.mp hn
    have hblank := hr.1.2 r hmr
    simp only [Resource.violations, List.append_eq_nil_iff] at hblank
    simpa using hblank.1.1.1.1

theorem legibleName_of_mem_enumNames (hn : ∀ n ∈ s.declaredNames, LegibleName n) {n : String}
    (h : n ∈ s.base.withFilters.enumNames) :
    LegibleName n := by
  have hstandard : ∀ n ∈ Standard.enums, LegibleName n := by decide
  rcases mem_expected_enums.mp (mem_enumNames_base.mp h) with h | h
  · exact hn n (List.mem_append_left _ (List.mem_append_left _ h))
  · exact hstandard n h

section Legible

variable (hv : s.violations = []) (hn : ∀ n ∈ s.declaredNames, LegibleName n)

include hv hn

/-- The names of the entities begin, as declared names and standard ones do. -/
theorem begins_of_mem_expectedOwners {n : String} (h : n ∈ TypeIndex.expectedOwners s) :
    LegibleName n ∧ Text.Begins n := by
  have hstandard : ∀ n ∈ Standard.objects, LegibleName n ∧ ¬ Text.isBlank n := by decide
  have hdeclared : ∀ n ∈ s.declaredNames, LegibleName n ∧ ¬ Text.isBlank n := fun n hmem =>
    ⟨hn n hmem, not_isBlank_of_mem_declaredNames hv hmem⟩
  have hname : LegibleName n ∧ ¬ Text.isBlank n := by
    rcases mem_expectedOwners.mp h with h | h | h
    · exact hdeclared n (List.mem_append_left _ (List.mem_append_right _ h))
    · exact hstandard n h
    · obtain ⟨r, hr, -, rfl⟩ := mem_readableNames.mp h
      exact hdeclared r.name (List.mem_append_right _ (List.mem_map_of_mem hr))
  exact ⟨hname.1, Text.begins_of_trim hname.1.1 hname.2⟩

theorem begins_of_mem_objectNames_base {n : String} (h : n ∈ s.base.objectNames) :
    LegibleName n ∧ Text.Begins n := by
  rcases mem_objectNames_base.mp h with h | h
  · exact begins_of_mem_expectedOwners hv hn (mem_objectNames_entities.mp h)
  · obtain ⟨x, hx, rfl⟩ := List.mem_map.mp h
    obtain ⟨src, hsrc, rfl⟩ := RequestErrors.exists_source_of_mem hx
    have hsubject : Text.Begins src.subject := by
      rcases hsrc with ⟨o, ho, rfl⟩ | ⟨re, hre, -, rfl⟩
      · exact (begins_of_mem_expectedOwners hv hn
          (mem_objectNames_entities.mp (List.mem_map_of_mem ho))).2
      · have hr : re.1.name ∈ s.declaredNames := by
          obtain ⟨hmr, -⟩ := mem_endpoints.mp hre
          rw [resources_base] at hmr
          obtain ⟨y, hy, heq⟩ := List.mem_map.mp hmr
          obtain ⟨r, hr, rfl⟩ := List.mem_map.mp hy
          have hname : r.name ∈ s.declaredNames :=
            List.mem_append_right _ (List.mem_map_of_mem hr)
          rw [← heq]
          exact hname
        have hbegins := Text.begins_of_trim (hn _ hr).1 (not_isBlank_of_mem_declaredNames hv hr)
        exact hbegins.append re.2.name
    rw [src.name_shape]
    exact ⟨Standard.legibleName_derived hsubject (List.mem_cons_self ..), hsubject.append _⟩

theorem legibleName_of_mem_objectNames {n : String} (h : n ∈ s.base.withFilters.objectNames) :
    LegibleName n := by
  rcases mem_objectNames_withFilters.mp h with h | ⟨o, ho, h⟩
  · exact (begins_of_mem_objectNames_base hv hn h).1
  · obtain ⟨a, ha, rfl⟩ := Standard.mem_filterNames.mp h
    have howner : o.name ∈ s.base.objectNames := List.mem_map_of_mem (mem_of_mem_filterOwners ho)
    exact Standard.legibleName_derived (begins_of_mem_objectNames_base hv hn howner).2
      (Standard.mem_derivedSuffixes_of_filter ha)

end Legible

/-- **Legible declared names make every type of an expanded service legible.** -/
theorem legible_of_expand (h : s.expand = .ok e) (hn : ∀ n ∈ s.declaredNames, LegibleName n) :
    ∀ p ∈ e.locatedFields, p.2.type.Legible := by
  obtain ⟨hs, href, rfl⟩ := expand_eq_ok_iff.mp h
  have hsettled := settled_iff.mp (verifyReferences_eq_ok_iff.mp href).1
  -- the check that ended expansion found every type among the names of the outcome
  intro p hp
  have ht := hsettled p hp
  cases hpt : p.2.type with
  | primitive _ => trivial
  | named n => exact absurd (hpt ▸ ht) TypeIndex.not_settles_named
  | object n =>
    rw [hpt, TypeIndex.settles_object] at ht
    exact legibleName_of_mem_objectNames hs.valid hn ht
  | enum n =>
    rw [hpt, TypeIndex.settles_enum] at ht
    exact legibleName_of_mem_enumNames hn ht

/-! ## Writing and reading -/

/-- The text of the service in a format is read as its document is. -/
def ReadsAsWritten (s : Service) (format : SourceFormat) : Prop :=
  ∀ u, form.decode (form.encode s) = .ok u → read format (s.render format) = .ok u

theorem readsAsWritten_json (s : Service) : s.ReadsAsWritten .json := by
  intro u h
  exact read_render_json h

/-- **Which types of an expanded service survive writing and reading.**  A type is read back from
its document if and only if it is legible.  The service that is written is read with its types
read anew, and from there it is checked and resolved to the service that was written if and only
if all its types are legible; so it is with every text that is read in this way, such as the text
of the service in a format that reads what it wrote, and its JSON text in any case.  All types are
legible if the names that were declared are. -/
theorem types_reread_iff (h : s.expand = .ok e) (hv : e.validate = .ok ()) :
    (∀ p ∈ e.locatedFields,
      ((∃ u, TypeRef.form.decode (TypeRef.form.encode p.2.type) = .ok u ∧
        (TypeIndex.expected e).resolve u = some p.2.type) ↔ p.2.type.Legible)) ∧
    Service.form.decode (Service.form.encode e) = .ok (e.mapTypes reread) ∧
    ((e.mapTypes reread).validateAndResolve = .ok e ↔ ∀ p ∈ e.locatedFields, p.2.type.Legible) ∧
    (∀ format source, read format source = .ok (e.mapTypes reread) →
      (parse format source = .ok e ↔ ∀ p ∈ e.locatedFields, p.2.type.Legible)) ∧
    (∀ format, e.ReadsAsWritten format →
      (parse format (e.render format) = .ok e ↔ ∀ p ∈ e.locatedFields, p.2.type.Legible)) ∧
    (parse .json (e.render .json) = .ok e ↔ ∀ p ∈ e.locatedFields, p.2.type.Legible) ∧
    ((∀ n ∈ s.declaredNames, LegibleName n) → ∀ p ∈ e.locatedFields, p.2.type.Legible) := by
  have hlegible := legible_of_expand h
  obtain ⟨hs, href, rfl⟩ := expand_eq_ok_iff.mp h
  have hvalid := validate_eq_ok_iff.mp hv
  have hsettled := (verifyReferences_eq_ok_iff.mp href).1
  have htypes := settled_iff.mp hsettled
  have henums : ∀ n ∈ Standard.enums, n ∈ s.base.withFilters.enumNames := fun n hn =>
    mem_enumNames_base.mpr (mem_expected_enums.mpr (.inr hn))
  have hblank : ∀ p ∈ s.base.withFilters.locatedFields, ¬ Text.isBlank p.2.type.name :=
    fun p hp => not_isBlank_of_settles hvalid (htypes p hp)
  have hall := validateAndResolve_reread_iff hvalid henums hsettled
  have hdecode := Form.decode_encode (restores fun p hp => TypeRef.restores_reread (hblank p hp))
  have hparse : ∀ format source, read format source = .ok (s.base.withFilters.mapTypes reread) →
      (parse format source = .ok s.base.withFilters ↔
        ∀ p ∈ s.base.withFilters.locatedFields, p.2.type.Legible) := by
    intro format source hread
    rw [parse_of_read hread, mapError_eq_ok_iff]
    exact hall
  have hrender : ∀ format, s.base.withFilters.ReadsAsWritten format →
      (parse format (s.base.withFilters.render format) = .ok s.base.withFilters ↔
        ∀ p ∈ s.base.withFilters.locatedFields, p.2.type.Legible) :=
    fun format hformat => hparse format _ (hformat _ hdecode)
  refine ⟨fun p hp => ?_, hdecode, hall, hparse, hrender, hrender .json (readsAsWritten_json _),
    hlegible⟩
  have htype := Form.decode_encode (TypeRef.restores_reread (hblank p hp))
  rw [← resolve_reread_iff hvalid henums (htypes p hp)]
  constructor
  · rintro ⟨u, hu, hback⟩
    obtain rfl := Except.ok.inj (htype.symm.trans hu)
    exact hback
  · intro hback
    exact ⟨_, htype, hback⟩

theorem types_reread_bookshop :
    bookshop.expand = .ok bookshop.base.withFilters ∧
      bookshop.base.withFilters.validate = .ok () ∧
      (∀ p ∈ bookshop.base.withFilters.locatedFields,
        ∃ u, TypeRef.form.decode (TypeRef.form.encode p.2.type) = .ok u ∧
          (TypeIndex.expected bookshop.base.withFilters).resolve u = some p.2.type) ∧
      (bookshop.base.withFilters.mapTypes reread).validateAndResolve =
        .ok bookshop.base.withFilters ∧
      bookshop.base.withFilters.ReadsAsWritten .json ∧
      parse .json (bookshop.base.withFilters.render .json) = .ok bookshop.base.withFilters := by
  have hv : bookshop.base.withFilters.validate = .ok () :=
    validate_eq_ok_iff.mpr (by decide +kernel)
  obtain ⟨htypes, -, hback, -, hrender, -, hlegible⟩ := types_reread_iff bookshop_expand hv
  have hnames : ∀ n ∈ bookshop.declaredNames, LegibleName n := by decide +kernel
  have hall := hlegible hnames
  have hjson := readsAsWritten_json bookshop.base.withFilters
  exact ⟨bookshop_expand, hv, fun p hp => (htypes p hp).mpr (hall p hp), hback.mpr hall, hjson,
    (hrender .json hjson).mpr hall⟩

/-- A service with a readable resource that is named like a primitive. -/
def calendar : Service where
  name := "Calendar"
  version := "1.0"
  resources := [{ name := "Date", operations := [.read], skipAutoColumns := true }]

/-- The pages of the resource hold objects, and read back they hold dates. -/
theorem calendar_pages_reread :
    calendar.expand = .ok calendar.base.withFilters ∧
      calendar.base.withFilters.validate = .ok () ∧
      ∃ p ∈ calendar.base.withFilters.locatedFields, p.2.type = .object "Date" ∧
        TypeRef.form.decode (TypeRef.form.encode p.2.type) = .ok (.primitive .date) ∧
        (TypeIndex.expected calendar.base.withFilters).resolve (.primitive .date) ≠
          some p.2.type := by
  have he : calendar.expand = .ok calendar.base.withFilters :=
    expand_eq_ok_iff.mpr ⟨⟨by decide +kernel, by decide +kernel, by decide +kernel⟩,
      by decide +kernel, rfl⟩
  have hpage : ∃ p ∈ calendar.base.withFilters.locatedFields, p.2.type = .object "Date" := by
    decide +kernel
  obtain ⟨p, hp, hpt⟩ := hpage
  refine ⟨he, validate_eq_ok_iff.mpr (by decide +kernel), p, hp, hpt, ?_, ?_⟩
  · have hread : (TypeRef.object "Date").reread = .primitive .date := by decide
    have hblank : ¬ Text.isBlank (TypeRef.object "Date").name := by decide
    rw [hpt, ← hread]
    exact Form.decode_encode (TypeRef.restores_reread hblank)
  · rw [hpt]
    simp [TypeIndex.resolve]

end Service

end ServiceSpec
