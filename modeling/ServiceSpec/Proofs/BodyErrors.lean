import ServiceSpec.Proofs.BaseExpansion
import ServiceSpec.Proofs.DerivedNames

/-!
# Error objects of request bodies

Every endpoint with a body has an object under its error name, and that object is meant to report
the errors of the body: one field for each parameter, and for a parameter that is a known object a
reference to an object that reports on its fields.  It does so where the name was free when the turn
of the endpoint came.  Error names are made by joining two names, however, and each is given away
once.  The endpoint `GroupCreate` of `User` and the endpoint `Create` of `UserGroup` have the same
error name, and so has an object `UserGroupCreate` in a body; the first of them gets the object, and
the others are left with one that reports on something else.

The exact condition is about the turn of the endpoint.  If its error name is taken by then, what has
it must fit the body by chance: an entity has the parameters for fields, an error object was built
for fields of the same names, and in both the fields for nested objects refer to what reports on
these.  If the name is free, what stands under the error names of the objects in the body must
mirror these objects, and the error object of the endpoint is among them.

## Main definitions

* `Object.Mirrors`, `Object.Reports`: an object that reports the errors of fields
* `Service.standing`: what stands when the turn of an endpoint comes
* `Service.ReportsUnder`: a name under which the errors of fields are reported
* `Service.Unhindered`: the condition at the turn of an endpoint
* `Service.SubjectsApart`: no error name is asked for twice

## Main results

* `reports_shape_iff`: when the error object of one body reports another one
* `exists_reports_iff`: when the object under the error name of an endpoint reports its body
* `SubjectsApart.unhindered`: no body is hindered if no error name is asked for twice
* `bodies_reported_iff`: both, for the outcome of the base expansion
-/

namespace ServiceSpec

/-- One field for each of those given, under its name, in the same order. -/
def Object.Mirrors (x : Object) (fields : List Field) : Prop :=
  x.fieldNames = fields.map (·.name)

theorem Field.names_errorShapes (known : List Object) (fields : List Field) :
    (fields.map (Field.errorShape known)).map (·.name) = fields.map (·.name) := by
  rw [List.map_map]
  exact List.map_congr_left fun f _ => f.name_errorShape known

/-- An error object mirrors the fields of the same names as those that it was built for. -/
theorem ErrorSource.mirrors_shape_iff {known : List Object} (src : ErrorSource)
    {fields : List Field} :
    (src.shape known).Mirrors fields ↔ src.body.map (·.name) = fields.map (·.name) := by
  rw [Object.Mirrors, Object.fieldNames, src.fields_shape, Field.names_errorShapes]

theorem Object.mirrors_errorShape (known : List Object) (o : Object) :
    (o.errorShape known).Mirrors o.fields :=
  (ErrorSource.mirrors_shape_iff (.object o)).mpr rfl

theorem Endpoint.mirrors_errorShape (known : List Object) (r : Resource) (e : Endpoint) :
    (e.errorShape known r).Mirrors e.request.bodyParams :=
  (ErrorSource.mirrors_shape_iff (.endpoint r e)).mpr rfl

/-- The name of the object that the error shape of a field refers to. -/
def Field.errorTypeName (known : List Object) (f : Field) : String :=
  (nestedObject? known f).elim Standard.errorField fun o => Standard.requestErrorName o.name

theorem Field.type_errorShape (known : List Object) (f : Field) :
    (f.errorShape known).type = .object (f.errorTypeName known) := by
  rw [errorTypeName]
  cases h : nestedObject? known f with
  | none => exact errorShape_of_none h
  | some o => exact errorShape_of_some h

namespace Service

/-- The field refers to an object of the service that mirrors the given one. -/
def ReportsOn (b : Service) (f : Field) (o : Object) : Prop :=
  ∃ n y, f.type = .object n ∧ b.findObject? n = some y ∧ y.Mirrors o.fields

/-- The parameter is an object that is known before error objects are built, and the service
declares no object under its error name. -/
structure Nests (s : Service) (p : Field) (o : Object) : Prop where
  known : o ∈ s.entities.objects
  type : p.type = .object o.name
  free : Standard.requestErrorName o.name ∉ s.objectNames

end Service

/-- The object reports the errors of a body in the expansion `b` of a service: it mirrors the
parameters, and its fields for nested objects refer to what mirrors these. -/
structure Object.Reports (s b : Service) (x : Object) (params : List Field) : Prop where
  mirrors : x.Mirrors params
  nested : ∀ pf ∈ params.zip x.fields, ∀ o, s.Nests pf.1 o → b.ReportsOn pf.2 o

namespace Service

variable {s b : Service} {pre post : List (Resource × Endpoint)} {r : Resource} {e : Endpoint}

/-- What stands when the turn of an endpoint comes: the entities, and the error objects built for
the endpoints before. -/
def standing (s : Service) (pre : List (Resource × Endpoint)) : List Object :=
  s.entities.objects ++ RequestErrors.ofEndpoints s.entities.objects pre

/-- Under the name stands what reports these fields: an entity with fields of the same names, or an
error object that is built for fields of the same names. -/
def ReportsUnder (s : Service) (n : String) (fields : List Field) : Prop :=
  (∃ y ∈ s.entities.objects, y.name = n ∧ y.Mirrors fields) ∨
    ∃ src : ErrorSource, src.shape s.entities.objects ∈ s.requestErrors ∧ src.name = n ∧
      src.body.map (·.name) = fields.map (·.name)

/-- Nothing that stands when the turn of an endpoint comes keeps its body from being reported. -/
structure Unhindered (s : Service) (pre : List (Resource × Endpoint)) (r : Resource)
    (e : Endpoint) : Prop where
  /-- An entity that has the error name is made for the body. -/
  entity : ∀ x ∈ s.entities.objects, x.name = e.requestErrorName r →
    x.Mirrors e.request.bodyParams ∧
      ∀ pf ∈ e.request.bodyParams.zip x.fields, ∀ o, s.Nests pf.1 o →
        ∃ n, pf.2.type = .object n ∧ s.ReportsUnder n o.fields
  /-- An error object that has the error name was built for fields of the same names, and where the
  body holds an object, it refers to what reports that. -/
  built : ∀ src : ErrorSource,
    src.shape s.entities.objects ∈ RequestErrors.ofEndpoints s.entities.objects pre →
      src.name = e.requestErrorName r →
        src.body.map (·.name) = e.request.bodyParams.map (·.name) ∧
          ∀ pf ∈ e.request.bodyParams.zip src.body, ∀ o, s.Nests pf.1 o →
            s.ReportsUnder (pf.2.errorTypeName s.entities.objects) o.fields
  /-- If nothing has the error name, what has those of the objects in the body mirrors these. -/
  nested : (∀ x ∈ s.standing pre, x.name ≠ e.requestErrorName r) →
    ∀ p ∈ e.request.bodyParams, ∀ o, s.Nests p o →
      ∀ y ∈ s.standing pre ++ [e.errorShape s.entities.objects r],
        y.name = Standard.requestErrorName o.name → y.Mirrors o.fields

theorem standing_subset (hsplit : s.base.endpoints = pre ++ (r, e) :: post) {x : Object}
    (hx : x ∈ s.standing pre) : x ∈ s.base.objects := by
  obtain ⟨later, hlater⟩ := RequestErrors.ofEndpoints_append s.entities.objects pre ((r, e) :: post)
  rw [objects_base, requestErrors, hsplit, hlater, ← List.append_assoc]
  exact List.mem_append_left _ hx

/-- A name under which fields are reported is that of an object which mirrors them. -/
theorem reportsUnder_iff (hw : s.WellNamed) {n : String} {fields : List Field} :
    s.ReportsUnder n fields ↔ ∃ y, s.base.findObject? n = some y ∧ y.Mirrors fields := by
  have hfind : ∀ {y : Object}, s.base.findObject? n = some y ↔ y ∈ s.base.objects ∧ y.name = n :=
    findObject?_eq_some_iff (nodup_objectNames_base hw)
  constructor
  · rintro (⟨y, hy, hyn, hmirrors⟩ | ⟨src, hsrc, hsn, hbody⟩)
    · exact ⟨y, hfind.mpr ⟨List.mem_append_left _ hy, hyn⟩, hmirrors⟩
    · refine ⟨src.shape s.entities.objects, hfind.mpr ⟨List.mem_append_right _ hsrc, ?_⟩, ?_⟩
      · rw [src.name_shape, hsn]
      · exact src.mirrors_shape_iff.mpr hbody
  · rintro ⟨y, hy, hmirrors⟩
    obtain ⟨hmem, rfl⟩ := hfind.mp hy
    rcases List.mem_append.mp hmem with hmem | hmem
    · exact .inl ⟨y, hmem, rfl, hmirrors⟩
    · obtain ⟨src, -, rfl⟩ := RequestErrors.exists_source_of_mem hmem
      exact .inr ⟨src, hmem, (src.name_shape _).symm, src.mirrors_shape_iff.mp hmirrors⟩

theorem reportsOn_iff (hw : s.WellNamed) {f : Field} {o : Object} :
    s.base.ReportsOn f o ↔ ∃ n, f.type = .object n ∧ s.ReportsUnder n o.fields := by
  simp only [ReportsOn, reportsUnder_iff hw, exists_and_left]

theorem reports_iff (hw : s.WellNamed) {x : Object} {params : List Field} :
    x.Reports s s.base params ↔
      x.Mirrors params ∧ ∀ pf ∈ params.zip x.fields, ∀ o, s.Nests pf.1 o →
        ∃ n, pf.2.type = .object n ∧ s.ReportsUnder n o.fields := by
  simp only [← reportsOn_iff hw]
  exact ⟨fun h => ⟨h.mirrors, h.nested⟩, fun h => ⟨h.1, h.2⟩⟩

/-- **When the error object of one body reports another one**: the two have the same names, and what
the first one refers to reports on the objects in the second. -/
theorem reports_shape_iff (hw : s.WellNamed) {known : List Object} (src : ErrorSource)
    {params : List Field} :
    (src.shape known).Reports s s.base params ↔
      src.body.map (·.name) = params.map (·.name) ∧
        ∀ pf ∈ params.zip src.body, ∀ o, s.Nests pf.1 o →
          s.ReportsUnder (pf.2.errorTypeName known) o.fields := by
  have hzip : params.zip (src.shape known).fields =
      (params.zip src.body).map (Prod.map id (Field.errorShape known)) := by
    rw [src.fields_shape, List.zip_map_right]
  rw [reports_iff hw, ErrorSource.mirrors_shape_iff, hzip, List.forall_mem_map]
  simp [Field.type_errorShape]

/-- A nested object is the one that error objects refer to. -/
theorem Nests.nestedObject?_eq (hw : s.WellNamed) {p : Field} {o : Object} (h : s.Nests p o) :
    nestedObject? s.entities.objects p = some o := by
  rw [nestedObject?, h.type]
  exact (findObject?_eq_some_iff (nodup_objectNames_entities hw)).mpr ⟨h.known, rfl⟩

theorem Nests.errorTypeName_eq (hw : s.WellNamed) {p : Field} {o : Object} (h : s.Nests p o) :
    p.errorTypeName s.entities.objects = Standard.requestErrorName o.name := by
  rw [Field.errorTypeName, h.nestedObject?_eq hw, Option.elim_some]

/-- What stands under the error name of a nested object after the turn of an endpoint: something
from before, the error object of the endpoint, or the one built for the nested object. -/
theorem exists_nested_errorObject (hw : s.WellNamed)
    (hsplit : s.base.endpoints = pre ++ (r, e) :: post) (hb : e.hasBody)
    (hfree : ∀ x ∈ s.standing pre, x.name ≠ e.requestErrorName r) :
    e.errorShape s.entities.objects r ∈ s.base.objects ∧
      ∀ p ∈ e.request.bodyParams, ∀ o, s.Nests p o →
        ∃ y ∈ s.base.objects, y.name = Standard.requestErrorName o.name ∧
          (y ∈ s.standing pre ++ [e.errorShape s.entities.objects r] ∨
            y = o.errorShape s.entities.objects) := by
  have hname : e.requestErrorName r ∉ (s.standing pre).map (·.name) := by
    simpa using hfree
  obtain ⟨served, later, hturn, hknown, hnested⟩ := RequestErrors.ofEndpoints_turn hb hname post
  have hmem : ∀ src ∈ served ++ [.endpoint r e],
      src.shape s.entities.objects ∈ s.base.objects := by
    intro src hsrc
    rw [objects_base, requestErrors, hsplit, hturn]
    apply List.mem_append_right
    apply List.mem_append_left
    exact List.mem_append_right _ (List.mem_map_of_mem hsrc)
  have hown : e.errorShape s.entities.objects r ∈ s.base.objects :=
    hmem (.endpoint r e) (by simp)
  refine ⟨hown, fun p hp o ho => ?_⟩
  have ho' : o ∈ (ErrorSource.endpoint r e).nested s.entities.objects :=
    List.mem_filterMap.mpr ⟨p, hp, ho.nestedObject?_eq hw⟩
  rcases List.mem_append.mp (hnested o ho') with hn | hn
  · obtain ⟨y, hy, hyn⟩ := List.mem_map.mp hn
    exact ⟨y, standing_subset hsplit hy, hyn, .inl (List.mem_append_left _ hy)⟩
  · obtain ⟨src, hsrc, hsn⟩ := List.mem_map.mp hn
    refine ⟨src.shape s.entities.objects, hmem src hsrc, by rw [ErrorSource.name_shape, hsn], ?_⟩
    rcases List.mem_append.mp hsrc with hsrc | hsrc
    · obtain ⟨k, hk, rfl⟩ := hknown src hsrc
      have hko : k.name = o.name := Standard.requestErrorName_injective hsn
      obtain rfl := eq_of_name_eq (nodup_objectNames_entities hw) hk ho.known hko
      exact .inr rfl
    · obtain rfl := List.mem_singleton.mp hsrc
      exact .inl (List.mem_append_right _ (List.mem_singleton_self _))

/-- A nested object is reported if and only if nothing that has its error name by then, the error
object of the endpoint among it, fails to mirror it. -/
theorem Nests.reportsUnder_iff (hw : s.WellNamed)
    (hsplit : s.base.endpoints = pre ++ (r, e) :: post) (hb : e.hasBody)
    (hfree : ∀ x ∈ s.standing pre, x.name ≠ e.requestErrorName r) {p : Field} {o : Object}
    (hp : p ∈ e.request.bodyParams) (ho : s.Nests p o) :
    s.ReportsUnder (Standard.requestErrorName o.name) o.fields ↔
      ∀ y ∈ s.standing pre ++ [e.errorShape s.entities.objects r],
        y.name = Standard.requestErrorName o.name → y.Mirrors o.fields := by
  obtain ⟨hown, hexists⟩ := exists_nested_errorObject hw hsplit hb hfree
  obtain ⟨x, hx, hxn, hcase⟩ := hexists p hp o ho
  have hxfind : s.base.findObject? (Standard.requestErrorName o.name) = some x :=
    (findObject?_eq_some_iff (nodup_objectNames_base hw)).mpr ⟨hx, hxn⟩
  rw [Service.reportsUnder_iff hw]
  constructor
  · rintro ⟨z, hz, hmirrors⟩ y hy hyn
    obtain rfl : x = z := Option.some.inj (hxfind.symm.trans hz)
    have hyb : y ∈ s.base.objects := by
      rcases List.mem_append.mp hy with hy | hy
      · exact standing_subset hsplit hy
      · exact List.mem_singleton.mp hy ▸ hown
    obtain rfl := eq_of_name_eq (nodup_objectNames_base hw) hyb hx (hyn.trans hxn.symm)
    exact hmirrors
  · intro hall
    refine ⟨x, hxfind, ?_⟩
    rcases hcase with hx' | rfl
    · exact hall x hx' hxn
    · exact o.mirrors_errorShape s.entities.objects

/-- Where the error name of an endpoint is free, only the objects in the body can hinder it. -/
theorem unhindered_iff_of_free (hfree : ∀ x ∈ s.standing pre, x.name ≠ e.requestErrorName r) :
    s.Unhindered pre r e ↔ ∀ p ∈ e.request.bodyParams, ∀ o, s.Nests p o →
      ∀ y ∈ s.standing pre ++ [e.errorShape s.entities.objects r],
        y.name = Standard.requestErrorName o.name → y.Mirrors o.fields := by
  constructor
  · intro hu
    exact hu.nested hfree
  · intro hnested
    refine ⟨fun x hx hxn => ?_, fun src hsrc hsn => ?_, fun _ => hnested⟩
    · exact absurd hxn (hfree x (List.mem_append_left _ hx))
    · refine absurd ?_ (hfree _ (List.mem_append_right _ hsrc))
      rw [src.name_shape, hsn]

/-- **When the error object of an endpoint reports its body**, if its name is free at its turn: what
stands under the error names of nested objects must mirror these. -/
theorem reports_errorShape_iff (hw : s.WellNamed)
    (hsplit : s.base.endpoints = pre ++ (r, e) :: post) (hb : e.hasBody)
    (hfree : ∀ x ∈ s.standing pre, x.name ≠ e.requestErrorName r) :
    (e.errorShape s.entities.objects r).Reports s s.base e.request.bodyParams ↔
      s.Unhindered pre r e := by
  have hzip : e.request.bodyParams.zip e.request.bodyParams =
      e.request.bodyParams.map fun p => (p, p) := by
    simpa using List.zip_map' (f := id) (g := id) (l := e.request.bodyParams)
  rw [unhindered_iff_of_free hfree]
  refine (reports_shape_iff hw (.endpoint r e)).trans ?_
  rw [ErrorSource.body, hzip, List.forall_mem_map, and_iff_right rfl]
  refine forall₄_congr fun p hp o ho => ?_
  rw [ho.errorTypeName_eq hw]
  exact ho.reportsUnder_iff hw hsplit hb hfree hp

/-- No entity has the name of an error object. -/
theorem name_entity_ne {endpoints : List (Resource × Endpoint)} {x y : Object}
    (hx : x ∈ s.entities.objects)
    (hy : y ∈ RequestErrors.ofEndpoints s.entities.objects endpoints) : x.name ≠ y.name := by
  intro heq
  have hknown : y.name ∈ s.entities.objects.map (·.name) := heq ▸ List.mem_map_of_mem hx
  exact RequestErrors.name_notMem_known (List.mem_map_of_mem hy) hknown

/-- When an entity that has the error name of an endpoint reports its body. -/
theorem reports_entity_iff (hw : s.WellNamed) {x : Object} (hx : x ∈ s.entities.objects)
    (hxn : x.name = e.requestErrorName r) :
    x.Reports s s.base e.request.bodyParams ↔ s.Unhindered pre r e := by
  rw [reports_iff hw]
  constructor
  · intro hreports
    refine ⟨fun y hy hyn => ?_, fun src hsrc hsn => ?_, fun hfree => ?_⟩
    · obtain rfl := eq_of_name_eq (nodup_objectNames_entities hw) hy hx (hyn.trans hxn.symm)
      exact hreports
    · refine absurd ?_ (name_entity_ne hx hsrc)
      rw [src.name_shape, hsn, hxn]
    · exact absurd hxn (hfree x (List.mem_append_left _ hx))
  · intro hu
    exact hu.entity x hx hxn

/-- When an error object that has the error name of a later endpoint reports its body. -/
theorem reports_built_iff (hw : s.WellNamed) {src : ErrorSource}
    (hsrc : src.shape s.entities.objects ∈ RequestErrors.ofEndpoints s.entities.objects pre)
    (hsn : src.name = e.requestErrorName r) :
    (src.shape s.entities.objects).Reports s s.base e.request.bodyParams ↔
      s.Unhindered pre r e := by
  have hname : (src.shape s.entities.objects).name = e.requestErrorName r := by
    rw [src.name_shape, hsn]
  constructor
  · intro hreports
    refine ⟨fun x hx hxn => ?_, fun a ha han => ?_, fun hfree => ?_⟩
    · exact absurd (hxn.trans hname.symm) (name_entity_ne hx hsrc)
    · have hshape : a.shape s.entities.objects = src.shape s.entities.objects := by
        apply List.inj_on_of_nodup_map (RequestErrors.nodup_names_ofEndpoints _ _) ha hsrc
        rw [hname, a.name_shape, han]
      rw [← hshape] at hreports
      exact (reports_shape_iff hw a).mp hreports
    · exact absurd hname (hfree _ (List.mem_append_right _ hsrc))
  · intro hu
    exact (reports_shape_iff hw src).mpr (hu.built src hsrc hsn)

/-- **When the object under the error name of an endpoint reports its body.** -/
theorem exists_reports_iff (hw : s.WellNamed) (hsplit : s.base.endpoints = pre ++ (r, e) :: post)
    (hb : e.hasBody) :
    ∃ x, s.base.findObject? (e.requestErrorName r) = some x ∧
      (x.Reports s s.base e.request.bodyParams ↔ s.Unhindered pre r e) := by
  have hfind : ∀ {x : Object}, x ∈ s.base.objects → x.name = e.requestErrorName r →
      s.base.findObject? (e.requestErrorName r) = some x := fun hx hxn =>
    (findObject?_eq_some_iff (nodup_objectNames_base hw)).mpr ⟨hx, hxn⟩
  by_cases hfree : ∀ x ∈ s.standing pre, x.name ≠ e.requestErrorName r
  · have hown := (exists_nested_errorObject hw hsplit hb hfree).1
    exact ⟨_, hfind hown rfl, reports_errorShape_iff hw hsplit hb hfree⟩
  · simp only [not_forall, not_not] at hfree
    obtain ⟨x, hx, hxn⟩ := hfree
    refine ⟨x, hfind (standing_subset hsplit hx) hxn, ?_⟩
    rcases List.mem_append.mp hx with hx | hx
    · exact reports_entity_iff hw hx hxn
    · obtain ⟨src, -, rfl⟩ := RequestErrors.exists_source_of_mem hx
      exact reports_built_iff hw hx ((src.name_shape _).symm.trans hxn)

/-! ## Names that are asked for once -/

/-- No error name is asked for twice: endpoints with bodies differ from each other and from objects
in what their error names are made of, and an object under an error name is declared. -/
structure SubjectsApart (s : Service) : Prop where
  endpoints : ((s.base.endpoints.filter (·.2.hasBody)).map
    fun re => re.1.name ++ re.2.name).Nodup
  objects : ∀ re ∈ s.base.endpoints, re.2.hasBody → re.1.name ++ re.2.name ∉ s.entities.objectNames
  declared : ∀ subject, Standard.requestErrorName subject ∈ s.entities.objectNames →
    Standard.requestErrorName subject ∈ s.objectNames

/-- What stands under an error name was declared, or built for a known object or for an endpoint
before. -/
theorem SubjectsApart.source_of_standing (h : s.SubjectsApart) {x : Object}
    (hx : x ∈ s.standing pre) {subject : String} (hn : x.name = Standard.requestErrorName subject)
    (hfree : Standard.requestErrorName subject ∉ s.objectNames) :
    (∃ o ∈ s.entities.objects, o.name = subject ∧ x = o.errorShape s.entities.objects) ∨
      ∃ re ∈ pre, re.2.hasBody ∧ re.1.name ++ re.2.name = subject := by
  rcases List.mem_append.mp hx with hx | hx
  · exact absurd (h.declared subject (hn ▸ List.mem_map_of_mem hx)) hfree
  · obtain ⟨src, ⟨o, ho, rfl⟩ | ⟨re, hre, hb, rfl⟩, rfl⟩ := RequestErrors.exists_source_of_mem hx
    · exact .inl ⟨o, ho, Standard.requestErrorName_injective hn, rfl⟩
    · exact .inr ⟨re, hre, hb, Standard.requestErrorName_injective hn⟩

/-- The error name of an endpoint is free at its turn if it is asked for once. -/
theorem SubjectsApart.free (h : s.SubjectsApart)
    (hsplit : s.base.endpoints = pre ++ (r, e) :: post) (hb : e.hasBody)
    (hfree : e.requestErrorName r ∉ s.objectNames) :
    ∀ x ∈ s.standing pre, x.name ≠ e.requestErrorName r := by
  intro x hx hxn
  rcases h.source_of_standing hx hxn hfree with ⟨o, ho, hon, -⟩ | ⟨re, hre, hreb, heq⟩
  · have hmem : (r, e) ∈ s.base.endpoints := by
      rw [hsplit]
      exact List.mem_append_right _ (List.mem_cons_self ..)
    exact h.objects (r, e) hmem hb (hon ▸ List.mem_map_of_mem ho)
  · have hnodup := h.endpoints
    rw [hsplit, List.filter_append, List.map_append, List.nodup_append] at hnodup
    refine hnodup.2.2 _ (List.mem_map_of_mem (List.mem_filter.mpr ⟨hre, hreb⟩)) _ ?_ heq
    exact List.mem_map.mpr ⟨(r, e), List.mem_filter.mpr ⟨List.mem_cons_self .., hb⟩, rfl⟩

/-- **No body is hindered if no error name is asked for twice.** -/
theorem SubjectsApart.unhindered (h : s.SubjectsApart) (hw : s.WellNamed)
    (hsplit : s.base.endpoints = pre ++ (r, e) :: post) (hb : e.hasBody)
    (hfree : e.requestErrorName r ∉ s.objectNames) : s.Unhindered pre r e := by
  have hnone := h.free hsplit hb hfree
  refine (unhindered_iff_of_free hnone).mpr fun p _ o ho y hy hyn => ?_
  -- under the error name of a known object stands what was built for it: endpoints keep clear of it
  have hknown : o.name ∈ s.entities.objectNames := List.mem_map_of_mem ho.known
  rcases List.mem_append.mp hy with hy | hy
  · rcases h.source_of_standing hy hyn ho.free with ⟨k, hk, hko, rfl⟩ | ⟨re, hre, hreb, heq⟩
    · obtain rfl := eq_of_name_eq (nodup_objectNames_entities hw) hk ho.known hko
      exact k.mirrors_errorShape s.entities.objects
    · rw [← heq] at hknown
      refine absurd hknown (h.objects re ?_ hreb)
      rw [hsplit]
      exact List.mem_append_left _ hre
  · obtain rfl := List.mem_singleton.mp hy
    have hsubject : r.name ++ e.name = o.name := Standard.requestErrorName_injective hyn
    rw [← hsubject] at hknown
    refine absurd hknown (h.objects (r, e) ?_ hb)
    rw [hsplit]
    exact List.mem_append_right _ (List.mem_cons_self ..)

/-- **When request bodies are reported.**  Every endpoint with a body has an object under its error
name, and that object reports the body exactly where nothing that stands at the turn of the endpoint
hinders it.  Where no error name is asked for twice, this holds of every endpoint whose error name
the service does not declare, and the object is the one built for that endpoint. -/
theorem bodies_reported_iff (h : s.expandBase = .ok b) :
    (∀ pre r e post, b.endpoints = pre ++ (r, e) :: post → e.hasBody →
      ∃ x, b.findObject? (e.requestErrorName r) = some x ∧
        (x.Reports s b e.request.bodyParams ↔ s.Unhindered pre r e)) ∧
    (s.SubjectsApart → ∀ re ∈ b.endpoints, re.2.hasBody →
      re.2.requestErrorName re.1 ∉ s.objectNames →
        b.findObject? (re.2.requestErrorName re.1) =
            some (re.2.errorShape s.entities.objects re.1) ∧
          (re.2.errorShape s.entities.objects re.1).Reports s b re.2.request.bodyParams) := by
  obtain ⟨hs, rfl⟩ := expandBase_eq_ok_iff.mp h
  have hw := wellNamed_of_violations hs.valid
  refine ⟨fun pre r e post hsplit hb => exists_reports_iff hw hsplit hb, ?_⟩
  rintro hd ⟨r, e⟩ hre hb hfree
  obtain ⟨pre, post, hsplit⟩ := List.append_of_mem hre
  have hnone := hd.free hsplit hb hfree
  have hown := (exists_nested_errorObject hw hsplit hb hnone).1
  refine ⟨(findObject?_eq_some_iff (nodup_objectNames_base hw)).mpr ⟨hown, rfl⟩, ?_⟩
  exact (reports_errorShape_iff hw hsplit hb hnone).mpr (hd.unhindered hw hsplit hb hfree)

theorem bookshop_subjectsApart : bookshop.SubjectsApart where
  endpoints := by decide +kernel
  objects := by decide +kernel
  declared subject h := by
    have hends : Standard.requestErrorSuffix.toList <:+
        (Standard.requestErrorName subject).toList := by
      rw [Standard.requestErrorName, String.toList_append]
      exact List.suffix_append ..
    have hnone : ∀ n ∈ bookshop.entities.objectNames,
        ¬ Standard.requestErrorSuffix.toList <:+ n.toList := by decide +kernel
    exact absurd hends (hnone _ h)

theorem bodies_reported_bookshop :
    bookshop.expandBase = .ok bookshop.base ∧ bookshop.SubjectsApart ∧
      ∀ re ∈ bookshop.base.endpoints, re.2.hasBody →
        re.2.requestErrorName re.1 ∉ bookshop.objectNames →
          bookshop.base.findObject? (re.2.requestErrorName re.1) =
              some (re.2.errorShape bookshop.entities.objects re.1) ∧
            (re.2.errorShape bookshop.entities.objects re.1).Reports bookshop bookshop.base
              re.2.request.bodyParams := by
  exact ⟨bookshop_expandBase, bookshop_subjectsApart,
    (bodies_reported_iff bookshop_expandBase).2 bookshop_subjectsApart⟩

/-- A service with two endpoints whose error names join to the same one. -/
def teams : Service where
  name := "Teams"
  resources :=
    [{ name := "User"
       endpoints :=
         [{ name := "GroupCreate"
            method := .post
            path := "/groups"
            request := .ofBody [{ name := "groupId", type := .primitive .uuid }] }]
       skipAutoColumns := true },
     { name := "UserGroup"
       endpoints :=
         [{ name := "Create"
            method := .post
            request := .ofBody [{ name := "title", type := .primitive .string }] }]
       skipAutoColumns := true }]

/-- The error object of both endpoints has the fields of the first. -/
theorem teams_share_errorObject :
    teams.expandBase = .ok teams.base ∧ teams.objectNames = [] ∧
      (teams.base.endpoints.map fun re =>
          (re.2.requestErrorName re.1, re.2.request.bodyParams.map (·.name))) =
        [("UserGroupCreateRequestError", ["groupId"]),
          ("UserGroupCreateRequestError", ["title"])] ∧
      (teams.base.findObject? "UserGroupCreateRequestError").map (·.fieldNames) =
        some ["groupId"] := by
  have hs : teams.Expandable := ⟨by decide +kernel, by decide +kernel, by decide +kernel⟩
  have hb : teams.expandBase = .ok teams.base := expandBase_eq_ok_iff.mpr ⟨hs, rfl⟩
  exact ⟨hb, rfl, by decide +kernel, by decide +kernel⟩

end Service

end ServiceSpec
