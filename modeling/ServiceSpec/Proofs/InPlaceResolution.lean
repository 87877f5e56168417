import Mathlib.Data.List.Forall2
import ServiceSpec.Proofs.Resolution

/-!
# Resolution in place

Resolution can be done on a walk through a service: every field is visited where it stands, its type
is replaced if the index knows what it stands for, and otherwise the field is reported.  The check
for open or unknown types only looks at the fields, and it has a rule of its own: an open type is
reported even if the index knows its name.

The two agree all the same.  A walk that changes fields meets them at the same places and in the
same order as one that lists them, and it leaves no open type that the index knows.  So what the
check reports afterwards is what resolution has reported, also where a service could be resolved in
part only.

## Main definitions

* `Yields`: what a step returns, and what it adds to the reports
* `Service.walkFields`: a walk through the fields of a service, changing them in place
* `TypeIndex.settleField`: a visit that resolves the type of a field or reports it
* `TypeIndex.SettledAs`: a type and what resolution makes of it, known or not
* `Service.SameButTypes`: services that differ in the types of fields only

## Main results

* `yields_walkFields`: a walk visits the located fields in their order
* `run_walkFields_settleField`: the walk that settles fields in place is resolution
* `rejectedTypes_mapTypes`: what a test rejects after a change of types
* `resolveWith_agrees`: resolution and the check for open or unknown types agree
-/

namespace ServiceSpec

/-! ## Steps with reports -/

section Reports

variable {ρ α β : Type}

/-- The step returns the value and adds the reports behind those made before, whatever they are. -/
def Yields (x : StateM (List ρ) α) (a : α) (added : List ρ) : Prop :=
  ∀ before, x.run before = (a, before ++ added)

namespace Yields

theorem pure (a : α) : Yields (ρ := ρ) (pure a) a [] := by
  intro before
  rw [List.append_nil]
  rfl

theorem bind {x : StateM (List ρ) α} {f : α → StateM (List ρ) β} {a : α} {b : β}
    {added later : List ρ} (hx : Yields x a added) (hf : Yields (f a) b later) :
    Yields (x >>= f) b (added ++ later) := by
  intro before
  rw [StateT.run_bind, hx before, ← List.append_assoc]
  exact hf (before ++ added)

/-- The last step of several makes no reports. -/
theorem map {x : StateM (List ρ) α} {a : α} {added : List ρ} (f : α → β)
    (hx : Yields x a added) : Yields (x >>= fun y => Pure.pure (f y)) (f a) added := by
  rw [← List.append_nil added]
  exact hx.bind (pure (f a))

/-- Visiting a list yields what the visits yield, in the order of the list. -/
theorem mapM {f : α → StateM (List ρ) β} {g : α → β} {r : α → List ρ}
    (h : ∀ a, Yields (f a) (g a) (r a)) (l : List α) :
    Yields (l.mapM f) (l.map g) (l.flatMap r) := by
  induction l with
  | nil => exact pure []
  | cons a rest ih =>
    rw [List.mapM_cons, List.map_cons, List.flatMap_cons]
    exact (h a).bind (ih.map (g a :: ·))

end Yields

end Reports

/-! ## Walks -/

section Walks

variable {m : Type → Type} [Monad m]

/-- Visits the fields of an endpoint in place: those of the request, then those of the response. -/
def Endpoint.walkFields (visit : Field → m Field) (e : Endpoint) : m Endpoint := do
  let requestHeaders ← e.request.headers.mapM visit
  let pathParams ← e.request.pathParams.mapM visit
  let queryParams ← e.request.queryParams.mapM visit
  let bodyParams ← e.request.bodyParams.mapM visit
  let responseHeaders ← e.response.headers.mapM visit
  let bodyFields ← e.response.bodyFields.mapM visit
  return { e with
    request := { e.request with headers := requestHeaders, pathParams, queryParams, bodyParams }
    response := { e.response with headers := responseHeaders, bodyFields } }

/-- Visits the fields of an object in place. -/
def Object.walkFields (visit : Location → Field → m Field) (o : Object) : m Object := do
  let fields ← o.fields.mapM fun f => visit (.objectField o.name f.name) f
  return { o with fields }

/-- Visits the columns of a resource in place, then the fields of its endpoints. -/
def Resource.walkFields (visit : Location → Field → m Field) (r : Resource) : m Resource := do
  let fields ← r.fields.mapM fun c => do
    let field ← visit (.resourceField r.name c.name) c.field
    return { c with field }
  let endpoints ← r.endpoints.mapM fun e =>
    e.walkFields fun f => visit (.endpointField r.name e.name f.name) f
  return { r with fields, endpoints }

/-- Visits every field of a service in place: those of objects, then those of resources. -/
def Service.walkFields (visit : Location → Field → m Field) (s : Service) : m Service := do
  let objects ← s.objects.mapM (Object.walkFields visit)
  let resources ← s.resources.mapM (Resource.walkFields visit)
  return { s with objects, resources }

end Walks

section Yields

variable {ρ : Type}

theorem Endpoint.yields_walkFields {visit : Field → StateM (List ρ) Field} {g : Field → Field}
    {r : Field → List ρ} (h : ∀ f, Yields (visit f) (g f) (r f)) (e : Endpoint) :
    Yields (e.walkFields visit) (e.mapFields g) (e.fields.flatMap r) := by
  simp only [fields, List.flatMap_append, List.append_assoc]
  exact (Yields.mapM h e.request.headers).bind <|
    (Yields.mapM h e.request.pathParams).bind <|
    (Yields.mapM h e.request.queryParams).bind <|
    (Yields.mapM h e.request.bodyParams).bind <|
    (Yields.mapM h e.response.headers).bind <|
    (Yields.mapM h e.response.bodyFields).map _

variable {visit : Location → Field → StateM (List ρ) Field} {g : Location → Field → Field}
  {r : Location → Field → List ρ}

theorem Object.yields_walkFields (h : ∀ l f, Yields (visit l f) (g l f) (r l f)) (o : Object) :
    Yields (o.walkFields visit) (o.mapLocatedFields g)
      (o.locatedFields.flatMap fun p => r p.1 p.2) := by
  rw [locatedFields, List.flatMap_map]
  exact (Yields.mapM (fun f => h (.objectField o.name f.name) f) o.fields).map _

theorem Resource.yields_walkFields (h : ∀ l f, Yields (visit l f) (g l f) (r l f))
    (x : Resource) :
    Yields (x.walkFields visit) (x.mapLocatedFields g)
      (x.locatedFields.flatMap fun p => r p.1 p.2) := by
  have hcolumns := Yields.mapM
    (fun c : ResourceField => (h (.resourceField x.name c.name) c.field).map fun field =>
      { c with field }) x.fields
  have hendpoints := Yields.mapM
    (fun e : Endpoint => e.yields_walkFields fun f => h (.endpointField x.name e.name f.name) f)
    x.endpoints
  rw [locatedFields, List.flatMap_append, List.flatMap_map, List.flatMap_assoc]
  simp only [List.flatMap_map]
  exact hcolumns.bind (hendpoints.map _)

/-- **A walk visits the located fields in their order.**  It changes each at its place, and its
reports are those of the visits, one after the other. -/
theorem Service.yields_walkFields (h : ∀ l f, Yields (visit l f) (g l f) (r l f)) (s : Service) :
    Yields (s.walkFields visit) (s.mapLocatedFields g)
      (s.locatedFields.flatMap fun p => r p.1 p.2) := by
  rw [locatedFields, List.flatMap_append, List.flatMap_assoc, List.flatMap_assoc]
  exact (Yields.mapM (Object.yields_walkFields h) s.objects).bind
    ((Yields.mapM (Resource.yields_walkFields h) s.resources).map _)

end Yields

/-! ## Resolution on a walk -/

namespace TypeIndex

variable {i : TypeIndex} {t : TypeRef}

/-- Resolves the type of a field, or leaves the field and reports it. -/
def settleField (i : TypeIndex) (l : Location) (f : Field) :
    StateM (List UnresolvedType) Field :=
  match i.resolve f.type with
  | some t => return { f with type := t }
  | none => do
    modify (· ++ [{ location := l, typeName := f.type.name }])
    return f

theorem settle_of_resolve_eq_none (h : i.resolve t = none) : i.settle t = t := by
  rw [settle, h, Option.getD_none]

theorem yields_settleField (i : TypeIndex) (l : Location) (f : Field) :
    Yields (i.settleField l f) { f with type := i.settle f.type }
      (if (i.resolve f.type).isSome then [] else [⟨l, f.type.name⟩]) := by
  intro before
  cases h : i.resolve f.type with
  | some t =>
    simp only [settleField, settle, h, Option.getD_some, Option.isSome_some, if_pos,
      List.append_nil]
    rfl
  | none =>
    rw [settle_of_resolve_eq_none h]
    simp only [settleField, h]
    rfl

end TypeIndex

namespace Service

variable {s : Service} {i : TypeIndex}

theorem rejectedTypes_eq_flatMap (s : Service) (accepts : TypeRef → Bool) :
    s.rejectedTypes accepts = s.locatedFields.flatMap fun p =>
      if accepts p.2.type then [] else [⟨p.1, p.2.type.name⟩] := by
  rw [rejectedTypes]
  induction s.locatedFields with
  | nil => rfl
  | cons p rest ih => cases h : accepts p.2.type <;> simp [h, ih]

/-- **The walk that settles fields in place is resolution.** -/
theorem run_walkFields_settleField (s : Service) (i : TypeIndex) :
    (s.walkFields i.settleField).run [] = s.resolveWith i := by
  rw [yields_walkFields i.yields_settleField s [], List.nil_append, resolveWith,
    rejectedTypes_eq_flatMap]
  rfl

/-! ## What resolution leaves -/

/-- What a test rejects after a change of types is what another test rejects before, if that asks
of each type what the first asks of its image, and rejected types keep their names. -/
theorem rejectedTypes_mapTypes {g : TypeRef → TypeRef} {accepts before : TypeRef → Bool}
    (haccepts : ∀ t, accepts (g t) = before t)
    (hname : ∀ t, before t = false → (g t).name = t.name) (s : Service) :
    (s.mapTypes g).rejectedTypes accepts = s.rejectedTypes before := by
  rw [rejectedTypes, rejectedTypes, locatedFields_mapTypes, List.filter_map, List.map_map]
  simp only [Function.comp_def, haccepts]
  refine List.map_congr_left fun p hp => ?_
  have hrejected : before p.2.type = false := by simpa using (List.mem_filter.mp hp).2
  rw [hname _ hrejected]

/-- The services differ in the types of fields only: they are the same once all types are alike. -/
def SameButTypes (s s' : Service) : Prop :=
  ∀ t, (s.mapTypes fun _ => t) = s'.mapTypes fun _ => t

theorem sameButTypes_mapTypes (g : TypeRef → TypeRef) (s : Service) :
    s.SameButTypes (s.mapTypes g) :=
  fun t => (mapTypes_mapTypes g (fun _ => t) s).symm

end Service

namespace TypeIndex

variable {i : TypeIndex} {t t' : TypeRef} {n : String}

/-- What resolution makes of a type: it changes just the open types with a known name, to the enum
of that name, or to the object if there is no such enum. -/
structure SettledAs (i : TypeIndex) (t t' : TypeRef) : Prop where
  changed_iff : t' ≠ t ↔ ∃ n, t = .named n ∧ (n ∈ i.enums ∨ n ∈ i.objects)
  enum : ∀ n, t = .named n → n ∈ i.enums → t' = .enum n
  object : ∀ n, t = .named n → n ∉ i.enums → n ∈ i.objects → t' = .object n

theorem settledAs_settle (i : TypeIndex) (t : TypeRef) : i.SettledAs t (i.settle t) where
  changed_iff := by
    cases t with
    | named n =>
      by_cases he : n ∈ i.enums
      · simp [settle_named_of_enum he, he]
      by_cases ho : n ∈ i.objects
      · simp [settle_named_of_object he ho, ho]
      · have hunknown : i.resolve (.named n) = none := by
          simp [resolve, hasEnum, hasObject, he, ho]
        simp [settle_of_resolve_eq_none hunknown, he, ho]
    | _ => simpa using settle_of_isResolved rfl
  enum := by
    rintro n rfl he
    exact settle_named_of_enum he
  object := by
    rintro n rfl he ho
    exact settle_named_of_object he ho

/-- Resolution settles just the types that the index knows. -/
theorem settles_settle_iff : i.Settles (i.settle t) ↔ (i.resolve t).isSome := by
  refine ⟨fun h => ?_, settles_settle⟩
  cases hr : i.resolve t with
  | none =>
    rw [settle_of_resolve_eq_none hr, Settles, hr] at h
    cases h
  | some u => rfl

/-- A type that resolution has been through is left alone by it. -/
theorem settle_settle (i : TypeIndex) (t : TypeRef) : i.settle (i.settle t) = i.settle t := by
  cases hr : i.resolve t with
  | none => rw [settle_of_resolve_eq_none hr, settle_of_resolve_eq_none hr]
  | some u => exact settle_eq_self (settles_settle (by rw [hr]; rfl))

theorem isSome_resolve_settle (i : TypeIndex) (t : TypeRef) :
    (i.resolve (i.settle t)).isSome = (i.resolve t).isSome := by
  cases hr : i.resolve t with
  | none => rw [settle_of_resolve_eq_none hr, hr]
  | some u =>
    have hs : i.Settles (i.settle t) := settles_settle (by rw [hr]; rfl)
    rw [show i.resolve (i.settle t) = some (i.settle t) from hs]
    rfl

end TypeIndex

/-- **Resolution and the check for open or unknown types agree**, for every service and every index.
Resolution can be done on a walk in place.  It changes nothing but types, and of these the open ones
with a known name.  The check, made of what is left, reports what resolution has reported, at the
same places and in the same order; so it is silent if and only if resolution was.  Resolving once
more changes nothing and reports the same. -/
theorem Service.resolveWith_agrees (s : Service) (i : TypeIndex) :
    (s.walkFields i.settleField).run [] = s.resolveWith i ∧
    s.SameButTypes (s.resolveWith i).1 ∧
    List.Forall₂ (fun p p' => p'.1 = p.1 ∧ i.SettledAs p.2.type p'.2.type) s.locatedFields
      (s.resolveWith i).1.locatedFields ∧
    (s.resolveWith i).1.unresolvedTypes i = (s.resolveWith i).2 ∧
    (s.resolveWith i).1.resolveWith i = s.resolveWith i := by
  rw [run_walkFields_settleField, fst_resolveWith, snd_resolveWith]
  have hname : ∀ t, (i.resolve t).isSome = false → (i.settle t).name = t.name := fun t ht => by
    rw [TypeIndex.settle_of_resolve_eq_none (Option.not_isSome_iff_eq_none.mp (by simp [ht]))]
  refine ⟨rfl, sameButTypes_mapTypes i.settle s, ?_, ?_, ?_⟩
  · rw [locatedFields_mapTypes, List.forall₂_map_right_iff]
    exact List.forall₂_same.mpr fun p _ => ⟨rfl, i.settledAs_settle p.2.type⟩
  · refine rejectedTypes_mapTypes (fun t => ?_) hname s
    rw [Bool.eq_iff_iff, ← TypeIndex.settles_iff, TypeIndex.settles_settle_iff]
  · rw [resolveWith, mapTypes_mapTypes, rejectedTypes_mapTypes i.isSome_resolve_settle hname]
    simp only [TypeIndex.settle_settle]
    rfl

end ServiceSpec
