import ServiceSpec.OpenApi
import ServiceSpec.Proofs.Documents
import ServiceSpec.Proofs.NameKinds

/-!
# Schema references

The document of a service refers to component schemas by their names: in the schemas of fields, in
parameters and headers, and in the bodies of requests, of responses and of errors.  The check that
ends expansion looks at the types of all fields and at the bodies of all endpoints.  These are the
places that references come from, so every reference of the document is that of a component schema.

The component schemas are those of the enums and the objects of the service, under their names.  No
two of these share a name in an expanded service that has a document, so none is lost.

## Main definitions

* `Document.textsUnder`: the texts that stand under a key, anywhere in a document
* `Document.RefersTo`: every reference of a document is to a name of an index

## Main results

* `Endpoint.KnownTo.refersTo_operation`: an operation refers to the types of its fields and its
  bodies
* `refersTo_openApiDocument`: the document of a service refers to what the service refers to
* `schemas_expand`: the component schemas of an expanded service, to which every reference leads
-/

namespace ServiceSpec

open OpenApi

namespace Document

/-! ## Texts under a key -/

/-- The text that a document is, if it is one. -/
def ownTexts : Document → List String
  | text value => [value]
  | _ => []

mutual

/-- The texts that stand under a key, anywhere in a document. -/
def textsUnder (key : String) : Document → List String
  | list items => textsInItems key items
  | object entries => textsInEntries key entries
  | _ => []

/-- The texts that stand under a key, anywhere in the items of a list. -/
def textsInItems (key : String) : List Document → List String
  | [] => []
  | d :: rest => d.textsUnder key ++ textsInItems key rest

/-- The texts that stand under a key, in the entries of an object and anywhere below. -/
def textsInEntries (key : String) : List (String × Document) → List String
  | [] => []
  | (k, d) :: rest =>
    (if k = key then d.ownTexts else []) ++ d.textsUnder key ++ textsInEntries key rest

end

variable {key t : String} {items : List Document} {es : List (String × Document)}

theorem mem_textsUnder_list :
    t ∈ (list items).textsUnder key ↔ ∃ d ∈ items, t ∈ d.textsUnder key := by
  rw [textsUnder]
  induction items with
  | nil => simp [textsInItems]
  | cons d rest ih => simp [textsInItems, ih]

theorem mem_textsUnder_object :
    t ∈ (object es).textsUnder key ↔
      ∃ e ∈ es, (e.1 = key ∧ t ∈ e.2.ownTexts) ∨ t ∈ e.2.textsUnder key := by
  rw [textsUnder]
  induction es with
  | nil => simp [textsInEntries]
  | cons e rest ih =>
    obtain ⟨k, d⟩ := e
    by_cases hk : k = key <;> simp [textsInEntries, ih, hk, or_assoc]

/-! ## Documents that refer to an index -/

/-- The path of the component schema of a name of the index. -/
def IsReference (i : TypeIndex) (t : String) : Prop :=
  ∃ n ∈ i.enums ++ i.objects, t = schemaPath ++ n

/-- Every reference of the document is to a name of the index. -/
def RefersTo (i : TypeIndex) (d : Document) : Prop :=
  ∀ t ∈ d.textsUnder "$ref", IsReference i t

/-- The entry is not a reference, or one to a name of the index, and so is every entry below. -/
def EntryRefersTo (i : TypeIndex) (e : String × Document) : Prop :=
  (e.1 = "$ref" → ∀ t ∈ e.2.ownTexts, IsReference i t) ∧ e.2.RefersTo i

variable {i : TypeIndex} {d : Document}

@[simp] theorem refersTo_object : (object es).RefersTo i ↔ ∀ e ∈ es, EntryRefersTo i e := by
  simp only [RefersTo, EntryRefersTo, mem_textsUnder_object]
  constructor
  · intro h e he
    exact ⟨fun hk t ht => h t ⟨e, he, .inl ⟨hk, ht⟩⟩, fun t ht => h t ⟨e, he, .inr ht⟩⟩
  · rintro h t ⟨e, he, ⟨hk, ht⟩ | ht⟩
    · exact (h e he).1 hk t ht
    · exact (h e he).2 t ht

@[simp] theorem refersTo_list : (list items).RefersTo i ↔ ∀ d ∈ items, d.RefersTo i := by
  simp only [RefersTo, mem_textsUnder_list]
  exact ⟨fun h d hd t ht => h t ⟨d, hd, ht⟩, fun h t ⟨d, hd, ht⟩ => h d hd t ht⟩

@[simp] theorem refersTo_text (s : String) : (text s).RefersTo i :=
  fun _ h => nomatch h

@[simp] theorem refersTo_bool (b : Bool) : (bool b).RefersTo i :=
  fun _ h => nomatch h

@[simp] theorem refersTo_integer (n : Int) : (integer n).RefersTo i :=
  fun _ h => nomatch h

@[simp] theorem refersTo_texts (values : List String) : (texts values).RefersTo i := by
  simp [texts]

/-- Under any other key, what an entry refers to is what its value refers to. -/
theorem entryRefersTo_of_ne (h : key ≠ "$ref") : EntryRefersTo i (key, d) ↔ d.RefersTo i :=
  and_iff_right fun hk => absurd hk h

/-- So it is under every key, for a value that is an object. -/
theorem entryRefersTo_object : EntryRefersTo i (key, object es) ↔ (object es).RefersTo i :=
  and_iff_right fun _ _ ht => nomatch ht

theorem entryRefersTo_singleton (h : key ≠ "$ref") (hd : d.RefersTo i) :
    ∀ e ∈ [(key, d)], EntryRefersTo i e :=
  List.forall_mem_singleton.mpr ((entryRefersTo_of_ne h).mpr hd)

theorem entryRefersTo_textEntry {s : String} (h : key ≠ "$ref") :
    ∀ e ∈ textEntry key s, EntryRefersTo i e := by
  rw [textEntry]
  split
  · exact List.forall_mem_nil _
  · exact entryRefersTo_singleton h (refersTo_text s)

theorem refersTo_set (h : (object es).RefersTo i) (hd : EntryRefersTo i (key, d)) :
    (object (set key d es)).RefersTo i := by
  rw [refersTo_object] at h ⊢
  intro e he
  rcases mem_of_mem_set he with rfl | he
  · exact hd
  · exact h e he

theorem refersTo_ofEntries (h : ∀ e ∈ es, EntryRefersTo i e) : (object (ofEntries es)).RefersTo i :=
  refersTo_object.mpr fun e he => h e (mem_of_mem_ofEntries he)

end Document

open Document

variable {i : TypeIndex}

/-! ## Schemas -/

theorem OpenApi.refersTo_reference {n : String} (h : n ∈ i.enums ++ i.objects) :
    (reference n).RefersTo i := by
  rw [reference, refersTo_object, List.forall_mem_singleton]
  refine ⟨fun _ t ht => ⟨n, h, List.mem_singleton.mp ht⟩, refersTo_text _⟩

theorem Primitive.refersTo_schema (p : Primitive) : p.schema.RefersTo i := by
  cases p <;> simp [schema, entryRefersTo_of_ne]

/-- A type that the index settles is built in, or its schema refers to a name of the index. -/
theorem TypeRef.refersTo_schema {t : TypeRef} (h : i.Settles t) : t.schema.RefersTo i := by
  cases t with
  | primitive p => exact p.refersTo_schema
  | object n =>
    exact refersTo_reference (List.mem_append_right _ (TypeIndex.settles_object.mp h))
  | enum n => exact refersTo_reference (List.mem_append_left _ (TypeIndex.settles_enum.mp h))
  | named n => exact absurd h TypeIndex.not_settles_named

theorem Field.refersTo_literal (f : Field) (s : String) : (f.literal s).RefersTo i := by
  rw [literal]
  split
  · cases integer? s <;> simp
  · cases flag? s <;> simp
  · exact refersTo_text s

theorem Field.refersTo_valueSchema {f : Field} (h : i.Settles f.type) :
    ∀ e ∈ f.valueSchema, EntryRefersTo i e := by
  have hone : f.type.schema.RefersTo i := TypeRef.refersTo_schema h
  have hall : (if f.isArray then Document.object [("type", text "array"), ("items", f.type.schema)]
      else f.type.schema).RefersTo i := by
    split
    · simp [entryRefersTo_of_ne, hone]
    · exact hone
  rw [valueSchema]
  split
  · rename_i entries hentries _
    rw [hentries] at hall
    exact refersTo_object.mp hall
  · simp [entryRefersTo_of_ne, hall]

theorem Field.refersTo_schema {f : Field} (h : i.Settles f.type) : f.schema.RefersTo i := by
  rw [schema, refersTo_object]
  simp only [List.forall_mem_append]
  refine ⟨⟨⟨Field.refersTo_valueSchema h, entryRefersTo_textEntry (by decide)⟩, ?_⟩, ?_⟩
  · split <;> simp [entryRefersTo_of_ne, f.refersTo_literal]
  · split <;> simp [entryRefersTo_of_ne, f.refersTo_literal]

/-- The schema of an object with settled fields. -/
theorem refersTo_fieldsSchema {fields : List Field} (h : ∀ f ∈ fields, i.Settles f.type) :
    ∀ e ∈ fieldsSchema fields, EntryRefersTo i e := by
  have hproperties : (Document.object (ofEntries (fields.map fun f => (f.tag, f.schema)))).RefersTo
      i := by
    refine refersTo_ofEntries fun e he => ?_
    obtain ⟨f, hf, rfl⟩ := List.mem_map.mp he
    exact entryRefersTo_object.mpr (Field.refersTo_schema (h f hf))
  rw [fieldsSchema, List.forall_mem_append]
  constructor
  · simp [entryRefersTo_of_ne, hproperties]
  · split <;> simp [entryRefersTo_of_ne]

theorem Object.refersTo_schema {o : Object} (h : ∀ f ∈ o.fields, i.Settles f.type) :
    o.schema.RefersTo i := by
  rw [schema, refersTo_object, List.forall_mem_append]
  exact ⟨refersTo_fieldsSchema h, entryRefersTo_textEntry (by decide)⟩

theorem Enum.refersTo_schema (e : Enum) : e.schema.RefersTo i := by
  rw [schema, refersTo_object, List.cons_append, List.forall_mem_cons, List.forall_mem_append]
  refine ⟨?_, entryRefersTo_textEntry (by decide), ?_⟩
  · simp [entryRefersTo_of_ne]
  · simp [entryRefersTo_of_ne]

/-! ## Endpoints -/

theorem Field.refersTo_parameter {f : Field} (h : i.Settles f.type) (place : ParameterPlace) :
    (f.parameter place).RefersTo i := by
  rw [parameter, refersTo_object]
  simp only [List.forall_mem_append]
  refine ⟨⟨?_, entryRefersTo_textEntry (by decide)⟩, ?_⟩
  · simp [entryRefersTo_of_ne]
  · simp [entryRefersTo_of_ne, Field.refersTo_schema h]

theorem refersTo_content {schema : Document} (h : schema.RefersTo i) (contentType : String) :
    (content contentType schema).RefersTo i := by
  simp [content, entryRefersTo_object, entryRefersTo_of_ne, h]

theorem ErrorResponse.refersTo_document {r : ErrorResponse}
    (h : r.bodyObject ∈ i.objects) : r.document.RefersTo i := by
  have hbody : (reference r.bodyObject).RefersTo i :=
    refersTo_reference (List.mem_append_right _ h)
  simp [ErrorResponse.document, entryRefersTo_of_ne, refersTo_content hbody]

/-- The index settles the fields of the endpoint and has the objects that its bodies name. -/
structure Endpoint.KnownTo (i : TypeIndex) (e : Endpoint) : Prop where
  fields : ∀ f ∈ e.fields, i.Settles f.type
  bodies : ∀ b ∈ e.bodyReferences, b.1 ∈ i.objects

namespace Endpoint

variable {e : Endpoint}

theorem KnownTo.refersTo_parameters (h : e.KnownTo i) :
    ∀ d ∈ e.request.parameters, d.RefersTo i := by
  have hf := h.fields
  simp only [Endpoint.fields, List.forall_mem_append] at hf
  obtain ⟨⟨⟨⟨⟨hheaders, hpath⟩, hquery⟩, -⟩, -⟩, -⟩ := hf
  simp only [Request.parameters, List.forall_mem_append, List.forall_mem_map]
  exact ⟨⟨fun f hf => Field.refersTo_parameter (hpath f hf) _,
    fun f hf => Field.refersTo_parameter (hquery f hf) _⟩,
    fun f hf => Field.refersTo_parameter (hheaders f hf) _⟩

theorem KnownTo.refersTo_responseSchema (h : e.KnownTo i) {schema : Document}
    (hs : e.response.schema? = some schema) : schema.RefersTo i := by
  rw [Response.schema?] at hs
  split at hs
  · rename_i object hobject
    obtain rfl := Option.some.inj hs
    have hbody : (object, BodyRole.response) ∈ e.bodyReferences := by
      simp [bodyReferences, hobject]
    exact refersTo_reference (List.mem_append_right _ (h.bodies _ hbody))
  · cases hs
  · obtain rfl := Option.some.inj hs
    exact refersTo_object.mpr (refersTo_fieldsSchema fun f hf =>
      h.fields f (List.mem_append_right _ hf))

theorem KnownTo.refersTo_success (h : e.KnownTo i) : e.success.RefersTo i := by
  have hheaders : (Document.object (ofEntries
      (e.response.headers.map fun f => (f.name, .object [("schema", f.schema)])))).RefersTo i := by
    refine refersTo_ofEntries fun x hx => ?_
    obtain ⟨f, hf, rfl⟩ := List.mem_map.mp hx
    have hfield : f ∈ e.fields := List.mem_append_left _ (List.mem_append_right _ hf)
    rw [entryRefersTo_object]
    simp [entryRefersTo_of_ne, Field.refersTo_schema (h.fields f hfield)]
  rw [success, refersTo_object, List.cons_append, List.forall_mem_cons, List.forall_mem_append]
  refine ⟨?_, ?_, ?_⟩
  · simp [entryRefersTo_of_ne]
  · split
    · exact List.forall_mem_nil _
    · exact entryRefersTo_singleton (by decide) hheaders
  · split
    · exact List.forall_mem_nil _
    · rename_i schema hs
      have hschema := h.refersTo_responseSchema hs
      exact entryRefersTo_singleton (by decide) (refersTo_content hschema _)

theorem KnownTo.refersTo_responses (h : e.KnownTo i) :
    (Document.object e.responses).RefersTo i := by
  refine refersTo_ofEntries ?_
  rw [List.forall_mem_cons, List.forall_mem_map]
  refine ⟨entryRefersTo_object.mpr h.refersTo_success, fun r hr => ?_⟩
  have hbody : (r.bodyObject, BodyRole.error) ∈ e.bodyReferences :=
    List.mem_append_right _ (List.mem_map_of_mem hr)
  exact entryRefersTo_object.mpr (ErrorResponse.refersTo_document (h.bodies _ hbody))

/-- **An operation refers to the types of its fields and to its bodies.** -/
theorem KnownTo.refersTo_operation (h : e.KnownTo i) (r : Resource) :
    (e.operation r).RefersTo i := by
  have hbody : (Document.object (fieldsSchema e.request.bodyParams)).RefersTo i := by
    refine refersTo_object.mpr (refersTo_fieldsSchema fun f hf => h.fields f ?_)
    simp [Endpoint.fields, hf]
  rw [operation, refersTo_object, List.cons_append, List.cons_append, List.cons_append,
    List.cons_append, List.cons_append, List.forall_mem_cons]
  simp only [List.forall_mem_append]
  -- one goal for each entry: identifier, summary, description, tags, parameters, body, responses
  refine ⟨?_, ⟨⟨⟨⟨?_, ?_⟩, ?_⟩, ?_⟩, ?_⟩, ?_⟩
  · simp [entryRefersTo_of_ne]
  · exact entryRefersTo_textEntry (by decide)
  · exact entryRefersTo_textEntry (by decide)
  · simp [entryRefersTo_of_ne]
  · split
    · exact List.forall_mem_nil _
    · exact entryRefersTo_singleton (by decide) (refersTo_list.mpr h.refersTo_parameters)
  · split
    · simp [entryRefersTo_of_ne, refersTo_content hbody]
    · exact List.forall_mem_nil _
  · exact entryRefersTo_singleton (by decide) h.refersTo_responses

end Endpoint

/-! ## The document of a service -/

theorem Server.refersTo_document (s : Server) : s.document.RefersTo i := by
  rw [document, refersTo_object, List.forall_mem_cons]
  exact ⟨(entryRefersTo_of_ne (by decide)).mpr (refersTo_text _),
    entryRefersTo_textEntry (by decide)⟩

theorem refersTo_addOperation {paths : List (String × Document)} {path method : String}
    {operation : Document} (h : (Document.object paths).RefersTo i)
    (ho : EntryRefersTo i (method, operation)) :
    (Document.object (addOperation paths path method operation)).RefersTo i := by
  rw [addOperation]
  split
  · rename_i item hlookup
    obtain ⟨before, after, rfl, -⟩ := List.lookup_eq_some_iff.mp hlookup
    have hentry := refersTo_object.mp h (path, .object item) (by simp)
    exact refersTo_set h (entryRefersTo_object.mpr
      (refersTo_set (entryRefersTo_object.mp hentry) ho))
  · refine refersTo_set h (entryRefersTo_object.mpr ?_)
    exact refersTo_object.mpr (List.forall_mem_singleton.mpr ho)

namespace Service

variable {s e : Service} {doc : Document}

theorem refersTo_paths (h : ∀ re ∈ s.endpoints, re.2.KnownTo i) :
    (Document.object s.paths).RefersTo i := by
  rw [paths]
  generalize s.endpoints = endpoints at h ⊢
  induction endpoints using List.reverseRecOn with
  | nil => exact refersTo_object.mpr (List.forall_mem_nil _)
  | append_singleton rest re ih =>
    rw [List.forall_mem_append] at h
    rw [List.foldl_append]
    have hoperation := (h.2 re (List.mem_singleton_self _)).refersTo_operation re.1
    exact refersTo_addOperation (ih h.1) (entryRefersTo_object.mpr hoperation)

theorem refersTo_componentSchemas (h : ∀ o ∈ s.objects, ∀ f ∈ o.fields, i.Settles f.type) :
    (Document.object s.componentSchemas).RefersTo i := by
  refine refersTo_ofEntries ?_
  rw [List.forall_mem_append, List.forall_mem_map, List.forall_mem_map]
  exact ⟨fun x _ => entryRefersTo_object.mpr x.refersTo_schema,
    fun o ho => entryRefersTo_object.mpr (Object.refersTo_schema (h o ho))⟩

/-- **The document of a service refers to what the service refers to.** -/
theorem refersTo_openApiDocument (h : s.Settled i)
    (hb : ∀ re ∈ s.endpoints, ∀ b ∈ re.2.bodyReferences, b.1 ∈ i.objects) :
    s.openApiDocument.RefersTo i := by
  have hknown : ∀ re ∈ s.endpoints, re.2.KnownTo i := by
    intro re hre
    obtain ⟨hr, he⟩ := mem_endpoints.mp hre
    exact ⟨h.endpoints re.1 hr re.2 he, hb re hre⟩
  have hschemas := refersTo_componentSchemas h.objects
  rw [openApiDocument, refersTo_object]
  simp only [List.forall_mem_append]
  refine ⟨⟨?_, ?_⟩, ?_⟩
  · simp [entryRefersTo_of_ne]
  · split
    · exact List.forall_mem_nil _
    · refine entryRefersTo_singleton (by decide) (refersTo_list.mpr ?_)
      exact List.forall_mem_map.mpr fun server _ => server.refersTo_document
  · rw [List.forall_mem_cons]
    refine ⟨(entryRefersTo_of_ne (by decide)).mpr (refersTo_paths hknown), ?_⟩
    refine entryRefersTo_singleton (by decide) (refersTo_object.mpr ?_)
    exact entryRefersTo_singleton (by decide) hschemas

/-- Where the component schemas of a service stand. -/
theorem at?_componentSchemas (s : Service) :
    s.openApiDocument.at? ["components", "schemas"] = some (.object s.componentSchemas) := by
  rw [at?_cons, find?_eq_lookup, openApiDocument]
  cases s.servers.isEmpty <;> rfl

/-- Under distinct names no component schema is lost. -/
theorem componentSchemas_eq (h : (s.enumNames ++ s.objectNames).Nodup) :
    s.componentSchemas =
      s.enums.map (fun x => (x.name, x.schema)) ++ s.objects.map fun o => (o.name, o.schema) := by
  rw [componentSchemas, ofEntries_eq_self_iff, List.map_append, List.map_map, List.map_map]
  exact h

theorem keys_componentSchemas (h : (s.enumNames ++ s.objectNames).Nodup) :
    s.componentSchemas.map (·.1) = s.enumNames ++ s.objectNames := by
  rw [componentSchemas_eq h, List.map_append, List.map_map, List.map_map]
  rfl

/-- The enums of an expanded service have distinct names, and so have its objects. -/
theorem nodup_names_expand (h : s.expand = .ok e) : e.enumNames.Nodup ∧ e.objectNames.Nodup := by
  obtain ⟨hs, -, rfl⟩ := expand_eq_ok_iff.mp h
  have hw := wellNamed_of_violations hs.valid
  refine ⟨?_, nodup_objectNames_withFilters (nodup_objectNames_base hw)⟩
  rw [enumNames_withFilters, enumNames_base]
  exact nodup_append_namesBeyond hw.enums (by decide)

/-- If an expanded service has a document, all its names are different. -/
theorem nodup_names_document (h : s.expand = .ok e) (hd : e.openApi = .ok doc) :
    (e.enumNames ++ e.objectNames).Nodup := by
  obtain ⟨henums, hobjects⟩ := nodup_names_expand h
  obtain rfl := eq_openApiDocument_of_openApi hd
  have hapart := openApi_eq_ok_iff.mp hd
  exact List.nodup_append.mpr ⟨henums, hobjects, fun n hn m hm heq => hapart m hm (heq ▸ hn)⟩

/-- **The component schemas of an expanded service** are those of its enums and then of its objects,
in order, each once.  Every text that stands under the key of references, anywhere in the document,
is the path of one of them. -/
theorem schemas_expand (h : s.expand = .ok e) (hd : e.openApi = .ok doc) :
    ∃ schemas, doc.at? ["components", "schemas"] = some (.object schemas) ∧
      schemas.map (·.1) = e.enumNames ++ e.objectNames ∧ (schemas.map (·.1)).Nodup ∧
      ∀ t ∈ doc.textsUnder "$ref", ∃ n ∈ schemas.map (·.1), t = "#/components/schemas/" ++ n := by
  have hnames := nodup_names_document h hd
  obtain rfl := eq_openApiDocument_of_openApi hd
  obtain ⟨hsettled, hbodies⟩ := verifyReferences_eq_ok_iff.mp (expand_eq_ok_iff.mp h).2.1
  refine ⟨e.componentSchemas, at?_componentSchemas e, keys_componentSchemas hnames, ?_, ?_⟩
  · rwa [keys_componentSchemas hnames]
  · have hrefers : e.openApiDocument.RefersTo (TypeIndex.declared e) :=
      refersTo_openApiDocument hsettled (unknownBodies_eq_nil_iff.mp hbodies)
    rw [keys_componentSchemas hnames]
    exact hrefers

theorem schemas_expand_bookshop :
    bookshop.expand = .ok bookshop.base.withFilters ∧
      bookshop.base.withFilters.openApi = .ok bookshop.base.withFilters.openApiDocument ∧
      "#/components/schemas/Book" ∈ bookshop.base.withFilters.openApiDocument.textsUnder "$ref" ∧
      ∀ t ∈ bookshop.base.withFilters.openApiDocument.textsUnder "$ref",
        ∃ n ∈ bookshop.base.withFilters.enumNames ++ bookshop.base.withFilters.objectNames,
          t = "#/components/schemas/" ++ n := by
  obtain ⟨schemas, -, hkeys, -, hrefers⟩ := schemas_expand bookshop_expand bookshop_openApi
  exact ⟨bookshop_expand, bookshop_openApi, by decide +kernel, hkeys ▸ hrefers⟩

end Service

end ServiceSpec
