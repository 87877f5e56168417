import ServiceSpec.Proofs.BaseExpansion

/-!
# What declared names stand for

A document refers to a type by its name alone.  The names are looked up among those that the service
will have once it is expanded, which are more than it declares: the standard enums and objects, the
bodies of readable resources, and the filters of all of these.  Enums come before objects.

In a valid service no declared name stands for both kinds.  So a declared enum is always found, and
a declared object is hidden by nothing but a standard enum.  That does happen: no check keeps a
service from declaring an object under the name of a standard enum, and every reference to that
object is a reference to the enum.

## Main definitions

* `Service.Denotes`: what a name stands for among the names a service is expected to have

## Main results

* `resolve_expected_iff`: an open type resolves to what its name stands for
* `resolve_declaredName`: what the names stand for that a valid service declares
-/

namespace ServiceSpec

namespace Service

variable {s : Service} {n : String} {t : TypeRef}

/-- What a name stands for among the names a service is expected to have: an enum of that name, and
otherwise an object that does not have to be derived, or a filter. -/
inductive Denotes (s : Service) (n : String) : TypeRef → Prop
  /-- A declared or a standard enum. -/
  | enum (h : n ∈ s.enumNames ∨ n ∈ Standard.enums) : Denotes s n (.enum n)
  /-- A declared or standard object, or the body of a readable resource. -/
  | object (he : n ∉ s.enumNames) (hs : n ∉ Standard.enums)
      (h : n ∈ s.objectNames ∨ n ∈ Standard.objects ∨ n ∈ s.readableNames) :
      Denotes s n (.object n)
  /-- A filter of such an object. -/
  | filter (he : n ∉ s.enumNames) (hs : n ∉ Standard.enums) {owner : String}
      (ho : owner ∈ s.objectNames ∨ owner ∈ Standard.objects ∨ owner ∈ s.readableNames)
      (h : n ∈ Standard.filterNames owner) : Denotes s n (.object n)

/-- **An open type resolves to what its name stands for**, and to nothing if that is nothing. -/
theorem resolve_expected_iff :
    (TypeIndex.expected s).resolve (.named n) = some t ↔ s.Denotes n t := by
  constructor
  · intro h
    by_cases he : n ∈ (TypeIndex.expected s).enums
    · rw [TypeIndex.resolve_named_of_enum he] at h
      cases h
      exact .enum (mem_expected_enums.mp he)
    by_cases ho : n ∈ (TypeIndex.expected s).objects
    · rw [TypeIndex.resolve_named_of_object he ho] at h
      cases h
      rw [mem_expected_enums, not_or] at he
      rcases mem_expected_objects.mp ho with hn | ⟨owner, howner, hn⟩
      · exact .object he.1 he.2 (mem_expectedOwners.mp hn)
      · exact .filter he.1 he.2 (mem_expectedOwners.mp howner) hn
    · simp [TypeIndex.resolve, TypeIndex.hasEnum, TypeIndex.hasObject, he, ho] at h
  · have henums : n ∉ s.enumNames → n ∉ Standard.enums → n ∉ (TypeIndex.expected s).enums :=
      fun he hs h => (mem_expected_enums.mp h).elim he hs
    rintro (h | ⟨he, hs, h⟩ | ⟨he, hs, ho, h⟩)
    · exact TypeIndex.resolve_named_of_enum (mem_expected_enums.mpr h)
    · exact TypeIndex.resolve_named_of_object (henums he hs)
        (mem_expected_objects.mpr (.inl (mem_expectedOwners.mpr h)))
    · exact TypeIndex.resolve_named_of_object (henums he hs)
        (mem_expected_objects.mpr (.inr ⟨_, mem_expectedOwners.mpr ho, h⟩))

theorem denotes_enum_iff : s.Denotes n (.enum n) ↔ n ∈ s.enumNames ∨ n ∈ Standard.enums := by
  refine ⟨fun h => ?_, .enum⟩
  cases h with
  | enum h => exact h

/-- An object that is declared is hidden by enums only. -/
theorem denotes_object_iff (ho : n ∈ s.objectNames) :
    s.Denotes n (.object n) ↔ n ∉ s.enumNames ∧ n ∉ Standard.enums := by
  refine ⟨fun h => ?_, fun h => .object h.1 h.2 (.inl ho)⟩
  cases h with
  | object he hs | filter he hs => exact ⟨he, hs⟩

/-- **What the names stand for that a valid service declares.**  A name that is not one of a
primitive is read as an open type.  If an enum is declared under it, the type resolves to that enum.
If an object is declared under it, the type resolves to that object unless a standard enum has the
name, and to the standard enum then. -/
theorem resolve_declaredName (hv : s.validate = .ok ()) (hn : Primitive.ofName? n = none) :
    TypeRef.ofName n = .named n ∧
    (n ∈ s.enumNames → (TypeIndex.expected s).resolve (.ofName n) = some (.enum n)) ∧
    (n ∈ s.objectNames →
      ((TypeIndex.expected s).resolve (.ofName n) = some (.object n) ↔ n ∉ Standard.enums) ∧
      (n ∈ Standard.enums → (TypeIndex.expected s).resolve (.ofName n) = some (.enum n))) := by
  have hopen : TypeRef.ofName n = .named n := by rw [TypeRef.ofName, hn]
  have hapart := (wellNamed_of_violations (validate_eq_ok_iff.mp hv)).apart
  rw [hopen]
  simp only [resolve_expected_iff, denotes_enum_iff]
  refine ⟨trivial, .inl, fun ho => ⟨?_, .inr⟩⟩
  rw [denotes_object_iff ho, and_iff_right fun he => hapart n he ho]

/-- A service that refers to an enum and to an object of its own. -/
def shipping : Service where
  name := "Shipping"
  enums := [{ name := "Carrier", values := [{ name := "Road" }, { name := "Rail" }] }]
  objects := [{ name := "Parcel", fields := [{ name := "carrier", type := .named "Carrier" }] },
    { name := "Order", fields := [{ name := "parcel", type := .named "Parcel" }] }]

theorem resolve_declaredName_shipping :
    shipping.validate = .ok () ∧
      (TypeIndex.expected shipping).resolve (.ofName "Carrier") = some (.enum "Carrier") ∧
      (TypeIndex.expected shipping).resolve (.ofName "Parcel") = some (.object "Parcel") := by
  have hv : shipping.validate = .ok () := validate_eq_ok_iff.mpr (by decide +kernel)
  have hcarrier := resolve_declaredName (n := "Carrier") hv (by decide)
  have hparcel := resolve_declaredName (n := "Parcel") hv (by decide)
  refine ⟨hv, hcarrier.2.1 (by decide), ?_⟩
  exact (hparcel.2.2 (by decide)).1.mpr (by decide)

/-- A service with an object that has the name of a standard enum, and a reference to it. -/
def support : Service where
  name := "Support"
  objects := [{ name := "ErrorCode", fields := [{ name := "value", type := .primitive .int }] },
    { name := "Failure", fields := [{ name := "code", type := .named "ErrorCode" }] }]

/-- The reference resolves to the standard enum and not to the object that is declared. -/
theorem support_errorCode_hidden :
    support.validate = .ok () ∧ Primitive.ofName? "ErrorCode" = none ∧
      "ErrorCode" ∈ support.objectNames ∧
      (TypeIndex.expected support).resolve (.named "ErrorCode") = some (.enum "ErrorCode") ∧
      (TypeIndex.expected support).resolve (.named "ErrorCode") ≠ some (.object "ErrorCode") ∧
      support.validateAndResolve = .ok support.resolve.1 ∧
      (support.resolve.1.findObject? "Failure").map (·.fields.map (·.type)) =
        some [.enum "ErrorCode"] := by
  have hv : support.validate = .ok () := validate_eq_ok_iff.mpr (by decide +kernel)
  have hresolved : support.resolve.2 = [] := by decide +kernel
  refine ⟨hv, by decide, by decide, by decide +kernel, by decide +kernel, ?_, by decide +kernel⟩
  rw [validateAndResolve_of_valid (validate_eq_ok_iff.mp hv), if_pos hresolved]

end Service

end ServiceSpec
