import ServiceSpec.Resolution
import Mathlib.Data.List.Basic

/-!
# Settled services

A service is settled for an index of names when every type in it is known to the index and none is
open.  Resolution settles a service or reports a type that it does not know, it leaves a settled
service alone, and it never changes a name.

## Main definitions

* `TypeIndex.Settles`: the index knows a type that is not open
* `TypeIndex.Sub`: every name of one index is a name of another
* `Service.Settled`: the index settles every type of a service

## Main results

* `settled_resolveWith`: resolution without unknown types settles a service
* `resolveWith_of_settled`: a settled service is its own resolution
* `unresolvedTypes_eq_nil_iff`: the check for open or unknown types accepts settled services
-/

namespace ServiceSpec

theorem map_eq_self {α : Type} {f : α → α} {l : List α} (h : ∀ a ∈ l, f a = a) : l.map f = l :=
  (List.map_congr_left h).trans (List.map_id _)

/-! ## Types -/

namespace TypeIndex

variable {i j : TypeIndex} {t u : TypeRef}

/-- The index knows the type, and the type is not open. -/
def Settles (i : TypeIndex) (t : TypeRef) : Prop :=
  i.resolve t = some t

@[simp] theorem settles_primitive (p : Primitive) : i.Settles (.primitive p) := rfl

@[simp] theorem settles_object {n : String} : i.Settles (.object n) ↔ n ∈ i.objects := by
  simp [Settles, resolve, hasObject]

@[simp] theorem settles_enum {n : String} : i.Settles (.enum n) ↔ n ∈ i.enums := by
  simp [Settles, resolve, hasEnum]

@[simp] theorem not_settles_named {n : String} : ¬ i.Settles (.named n) := by
  simp only [Settles, resolve]
  split
  · simp
  · split <;> simp

theorem resolve_named_of_enum {n : String} (h : n ∈ i.enums) :
    i.resolve (.named n) = some (.enum n) := by
  simp [resolve, hasEnum, h]

theorem resolve_named_of_object {n : String} (he : n ∉ i.enums) (h : n ∈ i.objects) :
    i.resolve (.named n) = some (.object n) := by
  simp [resolve, hasEnum, hasObject, he, h]

/-- Resolution says what a name stands for, and keeps the name. -/
theorem name_of_resolve (h : i.resolve t = some u) : u.name = t.name := by
  cases t with
  | primitive p =>
    cases h
    rfl
  | object n | enum n =>
    simp only [resolve] at h
    split at h
    · cases h
      rfl
    · cases h
  | named n =>
    simp only [resolve] at h
    split at h
    · cases h
      rfl
    · split at h
      · cases h
        rfl
      · cases h

theorem settles_of_resolve (h : i.resolve t = some u) : i.Settles u := by
  cases t with
  | primitive p => cases h; rfl
  | object n =>
    simp only [resolve] at h
    split at h
    · cases h; simpa [hasObject] using ‹i.hasObject n›
    · cases h
  | enum n =>
    simp only [resolve] at h
    split at h
    · cases h; simpa [hasEnum] using ‹i.hasEnum n›
    · cases h
  | named n =>
    simp only [resolve] at h
    split at h
    · cases h; simpa [hasEnum] using ‹i.hasEnum n›
    · split at h
      · cases h; simpa [hasObject] using ‹i.hasObject n›
      · cases h

theorem settles_settle (h : (i.resolve t).isSome) : i.Settles (i.settle t) := by
  obtain ⟨u, hu⟩ := Option.isSome_iff_exists.mp h
  rw [settle, hu, Option.getD_some]
  exact settles_of_resolve hu

theorem settle_eq_self (h : i.Settles t) : i.settle t = t := by
  rw [settle, h, Option.getD_some]

theorem settle_of_isResolved (h : t.isResolved) : i.settle t = t := by
  cases t with
  | named n => cases h
  | primitive p => rfl
  | object n | enum n =>
    simp only [settle, resolve]
    split <;> rfl

theorem settle_named_of_enum {n : String} (h : n ∈ i.enums) : i.settle (.named n) = .enum n := by
  rw [settle, resolve_named_of_enum h, Option.getD_some]

theorem settle_named_of_object {n : String} (he : n ∉ i.enums) (h : n ∈ i.objects) :
    i.settle (.named n) = .object n := by
  rw [settle, resolve_named_of_object he h, Option.getD_some]

theorem settles_iff : i.Settles t ↔ t.isResolved && (i.resolve t).isSome := by
  cases t <;> simp [Settles, resolve, TypeRef.isResolved]
  split
  · simp
  · split <;> simp

/-- Every name of one index is a name of the other, of the same kind. -/
structure Sub (i j : TypeIndex) : Prop where
  objects : ∀ n ∈ i.objects, n ∈ j.objects
  enums : ∀ n ∈ i.enums, n ∈ j.enums

theorem Settles.mono (h : i.Settles t) (hij : i.Sub j) : j.Settles t := by
  cases t with
  | primitive p => exact settles_primitive p
  | object n => exact settles_object.mpr (hij.objects n (settles_object.mp h))
  | enum n => exact settles_enum.mpr (hij.enums n (settles_enum.mp h))
  | named n => exact absurd h not_settles_named

end TypeIndex

/-! ## Fields of a service -/

namespace Service

variable {s : Service} {i j : TypeIndex}

/-- A property of every field of a service holds of the fields of objects, of the fields of
resources, and of the fields of endpoints. -/
theorem forall_locatedFields {P : Field → Prop} :
    (∀ p ∈ s.locatedFields, P p.2) ↔
      (∀ o ∈ s.objects, ∀ f ∈ o.fields, P f) ∧ (∀ r ∈ s.resources, ∀ f ∈ r.fields, P f.field) ∧
        ∀ r ∈ s.resources, ∀ e ∈ r.endpoints, ∀ f ∈ e.fields, P f := by
  simp only [locatedFields, Object.locatedFields, Resource.locatedFields, List.mem_append,
    List.mem_flatMap, List.mem_map]
  constructor
  · intro h
    refine ⟨fun o ho f hf => ?_, fun r hr f hf => ?_, fun r hr e he f hf => ?_⟩
    · exact h _ (.inl ⟨o, ho, f, hf, rfl⟩)
    · exact h _ (.inr ⟨r, hr, .inl ⟨f, hf, rfl⟩⟩)
    · exact h _ (.inr ⟨r, hr, .inr ⟨e, he, f, hf, rfl⟩⟩)
  · rintro ⟨ho, hr, he⟩ p (⟨o, hmo, f, hf, rfl⟩ | ⟨r, hmr, ⟨f, hf, rfl⟩ | ⟨e, hme, f, hf, rfl⟩⟩)
    · exact ho o hmo f hf
    · exact hr r hmr f hf
    · exact he r hmr e hme f hf

/-- The index settles every type of the service. -/
structure Settled (s : Service) (i : TypeIndex) : Prop where
  objects : ∀ o ∈ s.objects, ∀ f ∈ o.fields, i.Settles f.type
  columns : ∀ r ∈ s.resources, ∀ f ∈ r.fields, i.Settles f.field.type
  endpoints : ∀ r ∈ s.resources, ∀ e ∈ r.endpoints, ∀ f ∈ e.fields, i.Settles f.type

theorem settled_iff : s.Settled i ↔ ∀ p ∈ s.locatedFields, i.Settles p.2.type := by
  rw [forall_locatedFields (P := fun f => i.Settles f.type)]
  exact ⟨fun h => ⟨h.objects, h.columns, h.endpoints⟩, fun ⟨ho, hr, he⟩ => ⟨ho, hr, he⟩⟩

theorem Settled.mono (h : s.Settled i) (hij : i.Sub j) : s.Settled j where
  objects o ho f hf := (h.objects o ho f hf).mono hij
  columns r hr f hf := (h.columns r hr f hf).mono hij
  endpoints r hr e he f hf := (h.endpoints r hr e he f hf).mono hij

theorem rejectedTypes_eq_nil_iff {accepts : TypeRef → Bool} :
    s.rejectedTypes accepts = [] ↔ ∀ p ∈ s.locatedFields, accepts p.2.type := by
  simp [rejectedTypes, List.filter_eq_nil_iff]

/-- The check for open or unknown types accepts exactly the settled services. -/
theorem unresolvedTypes_eq_nil_iff : s.unresolvedTypes i = [] ↔ s.Settled i := by
  rw [unresolvedTypes, rejectedTypes_eq_nil_iff, settled_iff]
  exact forall₂_congr fun _ _ => TypeIndex.settles_iff.symm

/-! ## Changes of types -/

@[simp] theorem name_mapTypes (g : TypeRef → TypeRef) (s : Service) :
    (s.mapTypes g).name = s.name := rfl

@[simp] theorem enums_mapTypes (g : TypeRef → TypeRef) (s : Service) :
    (s.mapTypes g).enums = s.enums := rfl

@[simp] theorem enumNames_mapTypes (g : TypeRef → TypeRef) (s : Service) :
    (s.mapTypes g).enumNames = s.enumNames := rfl

theorem objects_mapTypes (g : TypeRef → TypeRef) (s : Service) :
    (s.mapTypes g).objects =
      s.objects.map (Object.mapLocatedFields fun _ f => { f with type := g f.type }) := rfl

theorem resources_mapTypes (g : TypeRef → TypeRef) (s : Service) :
    (s.mapTypes g).resources =
      s.resources.map (Resource.mapLocatedFields fun _ f => { f with type := g f.type }) := rfl

@[simp] theorem objectNames_mapTypes (g : TypeRef → TypeRef) (s : Service) :
    (s.mapTypes g).objectNames = s.objectNames := by
  rw [objectNames, objects_mapTypes, List.map_map]
  rfl

/-- The names of the resources that can be read. -/
def readableNames (s : Service) : List String :=
  (s.resources.filter (·.allows .read)).map (·.name)

theorem mem_readableNames {n : String} :
    n ∈ s.readableNames ↔ ∃ r ∈ s.resources, r.allows .read ∧ r.name = n := by
  simp [readableNames, and_assoc]

@[simp] theorem readableNames_mapTypes (g : TypeRef → TypeRef) (s : Service) :
    (s.mapTypes g).readableNames = s.readableNames := by
  rw [readableNames, resources_mapTypes, List.filter_map, List.map_map]
  rfl

theorem expectedOwners_eq (s : Service) :
    TypeIndex.expectedOwners s = s.objectNames ++ Standard.objects ++ s.readableNames := rfl

theorem mem_expectedOwners {n : String} :
    n ∈ TypeIndex.expectedOwners s ↔
      n ∈ s.objectNames ∨ n ∈ Standard.objects ∨ n ∈ s.readableNames := by
  rw [expectedOwners_eq, List.mem_append, List.mem_append, or_assoc]

theorem mem_expected_objects {n : String} :
    n ∈ (TypeIndex.expected s).objects ↔
      n ∈ TypeIndex.expectedOwners s ∨
        ∃ x ∈ TypeIndex.expectedOwners s, n ∈ Standard.filterNames x := by
  rw [TypeIndex.expected, List.mem_append, List.mem_flatMap]

theorem mem_expected_enums {n : String} :
    n ∈ (TypeIndex.expected s).enums ↔ n ∈ s.enumNames ∨ n ∈ Standard.enums := by
  rw [TypeIndex.expected, List.mem_append]

theorem declared_sub_expected (s : Service) :
    (TypeIndex.declared s).Sub (TypeIndex.expected s) where
  objects _ hn := mem_expected_objects.mpr (.inl (mem_expectedOwners.mpr (.inl hn)))
  enums _ hn := mem_expected_enums.mpr (.inl hn)

/-- The names that a service will have do not depend on its types. -/
@[simp] theorem expected_mapTypes (g : TypeRef → TypeRef) (s : Service) :
    TypeIndex.expected (s.mapTypes g) = TypeIndex.expected s := by
  simp only [TypeIndex.expected, expectedOwners_eq, objectNames_mapTypes, enumNames_mapTypes,
    readableNames_mapTypes]

/-! ## Resolution -/

theorem fst_resolveWith (s : Service) (i : TypeIndex) :
    (s.resolveWith i).1 = s.mapTypes i.settle := rfl

theorem snd_resolveWith (s : Service) (i : TypeIndex) :
    (s.resolveWith i).2 = s.rejectedTypes fun t => (i.resolve t).isSome := rfl

/-- Resolution without unknown types settles the service. -/
theorem settled_resolveWith (h : (s.resolveWith i).2 = []) : (s.resolveWith i).1.Settled i := by
  rw [snd_resolveWith] at h
  have hk : ∀ p ∈ s.locatedFields, (i.resolve p.2.type).isSome := rejectedTypes_eq_nil_iff.mp h
  obtain ⟨ho, hr, he⟩ := (forall_locatedFields (P := fun f => (i.resolve f.type).isSome)).mp hk
  -- one case for each place where a service holds fields
  rw [fst_resolveWith]
  refine ⟨?_, ?_, ?_⟩ <;> simp only [objects_mapTypes, resources_mapTypes, List.forall_mem_map]
  · intro o hmo x hx
    obtain ⟨f, hf, rfl⟩ := List.mem_map.mp hx
    exact TypeIndex.settles_settle (ho o hmo f hf)
  · intro r hmr x hx
    obtain ⟨f, hf, rfl⟩ := List.mem_map.mp hx
    exact TypeIndex.settles_settle (hr r hmr f hf)
  · intro r hmr y hy x hx
    obtain ⟨e, hme, rfl⟩ := List.mem_map.mp hy
    rw [Endpoint.fields_mapFields] at hx
    obtain ⟨f, hf, rfl⟩ := List.mem_map.mp hx
    exact TypeIndex.settles_settle (he r hmr e hme f hf)

end Service

/-- An endpoint whose fields do not change is unchanged. -/
theorem Endpoint.mapFields_eq_self {g : Field → Field} {e : Endpoint}
    (h : ∀ f ∈ e.fields, g f = f) : e.mapFields g = e := by
  simp only [fields, List.mem_append, or_imp, forall_and] at h
  obtain ⟨⟨⟨⟨⟨h₁, h₂⟩, h₃⟩, h₄⟩, h₅⟩, h₆⟩ := h
  simp only [mapFields, map_eq_self h₁, map_eq_self h₂, map_eq_self h₃, map_eq_self h₄,
    map_eq_self h₅, map_eq_self h₆]

theorem Endpoint.mapFields_mapFields (f g : Field → Field) (e : Endpoint) :
    (e.mapFields f).mapFields g = e.mapFields fun x => g (f x) := by
  simp only [mapFields, List.map_map]
  rfl

namespace Service

variable {s : Service} {i : TypeIndex}

theorem mapTypes_eq_self {g : TypeRef → TypeRef}
    (h : ∀ p ∈ s.locatedFields, g p.2.type = p.2.type) : s.mapTypes g = s := by
  obtain ⟨ho, hr, he⟩ := (forall_locatedFields (P := fun f => g f.type = f.type)).mp h
  have hobjects : (s.mapTypes g).objects = s.objects := by
    apply map_eq_self
    intro o hmo
    have hf : o.fields.map (fun f => { f with type := g f.type }) = o.fields :=
      map_eq_self fun f hf => by rw [ho o hmo f hf]
    simp only [Object.mapLocatedFields, hf]
  have hresources : (s.mapTypes g).resources = s.resources := by
    apply map_eq_self
    intro r hmr
    have hf : (r.fields.map fun f =>
        { f with field := { f.field with type := g f.field.type } }) = r.fields :=
      map_eq_self fun f hf => by rw [hr r hmr f hf]
    have hes : (r.endpoints.map fun e =>
        e.mapFields fun f => { f with type := g f.type }) = r.endpoints :=
      map_eq_self fun e hme => Endpoint.mapFields_eq_self fun f hf => by rw [he r hmr e hme f hf]
    simp only [Resource.mapLocatedFields, hf, hes]
  calc s.mapTypes g
      = { s with
          objects := (s.mapTypes g).objects
          resources := (s.mapTypes g).resources } := rfl
    _ = s := by rw [hobjects, hresources]

/-- A change of types changes the field at each place. -/
theorem locatedFields_mapTypes (g : TypeRef → TypeRef) (s : Service) :
    (s.mapTypes g).locatedFields =
      s.locatedFields.map fun p => (p.1, { p.2 with type := g p.2.type }) := by
  have hobject : ∀ o : Object,
      (o.mapLocatedFields fun _ f => { f with type := g f.type }).locatedFields =
        o.locatedFields.map fun p => (p.1, { p.2 with type := g p.2.type }) := by
    intro o
    simp only [Object.locatedFields, Object.mapLocatedFields, List.map_map]
    rfl
  have hresource : ∀ r : Resource,
      (r.mapLocatedFields fun _ f => { f with type := g f.type }).locatedFields =
        r.locatedFields.map fun p => (p.1, { p.2 with type := g p.2.type }) := by
    intro r
    simp only [Resource.locatedFields, Resource.mapLocatedFields, List.map_append, List.map_map,
      List.map_flatMap, List.flatMap_map, Endpoint.fields_mapFields]
    rfl
  simp only [locatedFields, objects_mapTypes, resources_mapTypes, List.flatMap_map, hobject,
    hresource, List.map_append, List.map_flatMap]

/-- A change of types leaves a service alone if and only if it changes no type of it. -/
theorem mapTypes_eq_self_iff {g : TypeRef → TypeRef} :
    s.mapTypes g = s ↔ ∀ p ∈ s.locatedFields, g p.2.type = p.2.type := by
  constructor
  · intro h p hp
    have hfields := locatedFields_mapTypes g s
    rw [h] at hfields
    have hfield := List.map_eq_map_iff.mp ((List.map_id _).trans hfields) p hp
    exact (congrArg (·.2.type) hfield).symm
  · exact mapTypes_eq_self

theorem mapTypes_mapTypes (f g : TypeRef → TypeRef) (s : Service) :
    (s.mapTypes f).mapTypes g = s.mapTypes fun t => g (f t) := by
  simp only [mapTypes, mapLocatedFields, List.map_map, Function.comp_def, Object.mapLocatedFields,
    Resource.mapLocatedFields, Endpoint.mapFields_mapFields]
  rfl

/-- A settled service is its own resolution. -/
theorem resolveWith_of_settled (h : s.Settled i) : s.resolveWith i = (s, []) := by
  have hs := settled_iff.mp h
  have hnone : (s.rejectedTypes fun t => (i.resolve t).isSome) = [] :=
    rejectedTypes_eq_nil_iff.mpr fun p hp => by rw [hs p hp]; rfl
  exact Prod.ext (mapTypes_eq_self fun p hp => TypeIndex.settle_eq_self (hs p hp)) hnone

end Service

end ServiceSpec
