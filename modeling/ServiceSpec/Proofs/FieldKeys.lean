import ServiceSpec.Proofs.FieldNames
import ServiceSpec.Proofs.SchemaReferences

/-!
# Keys of fields

The schema of an object has a property for each key of its fields.  The key of a field is the camel
case of its name, so two fields may have the same key; then the schema shows the last of them in the
place of the first, and the key stands twice among the required ones.

Validation looks at the names of fields, and not at their keys, which leaves two ways to lose a
field.  A service may declare fields with the same key, in an object, among the columns of a
resource or in the body of a request.  And expansion may add one: the implicit columns `ID` and
`Meta` are left out only where a column has the same name.  Filters lose no field that their object
keeps, and standard objects lose none.

## Main definitions

* `Field.tags`: the keys of fields
* `Document.ShowsFields`: the schema of an object has all its fields
* `Service.TagsApart`: no object that is not derived from another one has two fields with one key
* `Service.TagsDistinct`: declared fields, and the implicit columns with them, have different keys

## Main results

* `showsFields_iff`: a schema has all fields of its object if and only if their keys are different
* `nodup_tags_expand_iff`: when all objects of an expanded service have fields with different keys
* `fields_expand_iff`: both, for the document of an expanded service
-/

namespace ServiceSpec

open Document

/-! ## Keys -/

/-- The keys of fields, in order. -/
def Field.tags (fields : List Field) : List String :=
  fields.map tag

namespace Field

variable {fields more : List Field}

/-- Keys are made of names. -/
theorem tags_eq (fields : List Field) :
    tags fields = (fields.map (·.name)).map Naming.camelCase := by
  rw [tags, List.map_map]
  rfl

theorem tags_eq_of_names_eq (h : fields.map (·.name) = more.map (·.name)) :
    tags fields = tags more := by
  rw [tags_eq, tags_eq, h]

theorem nodup_tags_of_sublist (h : (tags more).Nodup)
    (hs : (fields.map (·.name)).Sublist (more.map (·.name))) : (tags fields).Nodup := by
  rw [tags_eq] at h ⊢
  exact h.sublist (hs.map _)

theorem nodup_requiredTags (h : (tags fields).Nodup) : (requiredTags fields).Nodup :=
  h.sublist (List.filter_sublist.map _)

end Field

/-! ## Schemas -/

/-- The properties of an object with these fields. -/
def Field.properties (fields : List Field) : List (String × Document) :=
  fields.map fun f => (f.tag, f.schema)

theorem Field.keys_properties (fields : List Field) :
    (properties fields).map (·.1) = tags fields := by
  rw [properties, List.map_map]
  rfl

theorem Object.at?_properties (x : Object) :
    x.schema.at? ["properties"] = some (.object (ofEntries (Field.properties x.fields))) := by
  rw [at?_cons, find?_eq_lookup]
  rfl

theorem Object.at?_required (x : Object) :
    x.schema.at? ["required"] =
      match Field.requiredTags x.fields with
      | [] => none
      | tags => some (texts tags) := by
  rw [at?_cons, find?_eq_lookup, schema, fieldsSchema]
  cases Field.requiredTags x.fields with
  | nil =>
    rw [textEntry]
    by_cases hd : x.description = ""
    · rw [if_pos hd]
      rfl
    · rw [if_neg hd]
      rfl
  | cons tag rest => rfl

theorem texts_injective {a b : List String} (h : texts a = texts b) : a = b := by
  rw [texts, texts, Document.list.injEq] at h
  exact List.map_injective_iff.mpr (fun _ _ => Document.text.inj) h

/-- The schema of the object has its fields and nothing else: a property for each field under its
key, in the order of the fields, and no key twice among the required ones. -/
structure Document.ShowsFields (doc : Document) (x : Object) : Prop where
  properties : doc.at? ["components", "schemas", x.name, "properties"] =
    some (.object (Field.properties x.fields))
  required : ∀ tags, doc.at? ["components", "schemas", x.name, "required"] = some (texts tags) →
    tags.Nodup

namespace Service

variable {s e : Service} {doc : Document} {x : Object}

/-- The schema of an object stands under its name. -/
theorem at?_objectSchema (h : (s.enumNames ++ s.objectNames).Nodup) (hx : x ∈ s.objects)
    (path : List String) :
    s.openApiDocument.at? (["components", "schemas", x.name] ++ path) = x.schema.at? path := by
  have hlookup : s.componentSchemas.lookup x.name = some x.schema := by
    have hkeys : (s.componentSchemas.map (·.1)).Nodup := by rwa [keys_componentSchemas h]
    rw [lookup_eq_some_iff hkeys, componentSchemas_eq h]
    exact List.mem_append_right _ (List.mem_map_of_mem hx)
  have hfind : (Document.object s.componentSchemas).at? [x.name] = some x.schema := by
    rw [at?_cons, find?_eq_lookup, entries, hlookup]
    rfl
  rw [at?_append, show ["components", "schemas", x.name] = ["components", "schemas"] ++ [x.name]
    from rfl, at?_append, at?_componentSchemas, Option.bind_some, hfind, Option.bind_some]

/-- **A schema has all fields of its object if and only if their keys are different.** -/
theorem showsFields_iff (h : (s.enumNames ++ s.objectNames).Nodup) (hx : x ∈ s.objects) :
    s.openApiDocument.ShowsFields x ↔ (Field.tags x.fields).Nodup := by
  have hproperties := at?_objectSchema h hx ["properties"]
  have hrequired := at?_objectSchema h hx ["required"]
  rw [Object.at?_properties] at hproperties
  rw [Object.at?_required] at hrequired
  constructor
  · -- all properties are kept, so no key replaced another
    intro hs
    have heq := hproperties.symm.trans hs.properties
    rw [← Field.keys_properties, ← ofEntries_eq_self_iff]
    exact Document.object.inj (Option.some.inj heq)
  · intro hn
    refine ⟨?_, fun tags htags => ?_⟩
    · rw [← Field.keys_properties, ← ofEntries_eq_self_iff] at hn
      rw [hn] at hproperties
      exact hproperties
    · have heq := hrequired.symm.trans htags
      have hnodup := Field.nodup_requiredTags hn
      split at heq
      · cases heq
      · rwa [texts_injective (Option.some.inj heq)] at hnodup

end Service

/-! ## Objects of an expanded service -/

theorem hereditary_nodup_keys : Hereditary fun names => (names.map Naming.camelCase).Nodup where
  sublist hs h := h.sublist (hs.map _)
  standard := by decide +kernel
  combined := by decide +kernel

namespace Service

variable {s e : Service} {doc : Document}

/-- The objects that are not derived from others have fields with different keys: declared objects,
the readable columns of resources that have an object made for them, and the bodies of requests that
have an error object made for them. -/
structure TagsApart (s : Service) : Prop where
  objects : ∀ o ∈ s.objects, (Field.tags o.fields).Nodup
  bodies : ∀ r ∈ s.resources, s.LacksBody r →
    (Field.tags (r.withAutoColumns.fieldsWith .read)).Nodup
  requests : ∀ re ∈ s.base.endpoints, re.2.errorShape s.entities.objects re.1 ∈ s.requestErrors →
    (Field.tags re.2.request.bodyParams).Nodup

theorem tagsApart_iff :
    s.TagsApart ↔ s.SourceNames fun names => (names.map Naming.camelCase).Nodup := by
  constructor
  · intro h
    refine ⟨fun o ho => ?_, fun r hr hl => ?_, fun re hre herror => ?_⟩
    · rw [Object.fieldNames, ← Field.tags_eq]
      exact h.objects o ho
    · rw [← Field.tags_eq]
      exact h.bodies r hr hl
    · rw [← Field.tags_eq]
      exact h.requests re hre herror
  · intro h
    refine ⟨fun o ho => ?_, fun r hr hl => ?_, fun re hre herror => ?_⟩
    · rw [Field.tags_eq]
      exact h.objects o ho
    · rw [Field.tags_eq]
      exact h.bodies r hr hl
    · rw [Field.tags_eq]
      exact h.requests re hre herror

/-- **When all objects of an expanded service have fields with different keys.** -/
theorem nodup_tags_expand_iff (h : s.expand = .ok e) :
    (∀ x ∈ e.objects, (Field.tags x.fields).Nodup) ↔ s.TagsApart := by
  rw [tagsApart_iff, ← forall_fieldNames_expand_iff hereditary_nodup_keys h]
  refine forall₂_congr fun x _ => ?_
  rw [Field.tags_eq, Object.fieldNames]

/-! ## Declared fields -/

/-- The fields that a service declares have different keys: those of each object, of each resource
with its implicit columns, and of the body of each endpoint. -/
structure TagsDistinct (s : Service) : Prop where
  objects : ∀ o ∈ s.objects, (Field.tags o.fields).Nodup
  columns : ∀ r ∈ s.resources, (Field.tags (r.withAutoColumns.fields.map (·.field))).Nodup
  bodies : ∀ r ∈ s.resources, ∀ e ∈ r.endpoints, (Field.tags e.request.bodyParams).Nodup

theorem TagsDistinct.fieldsWith (h : s.TagsDistinct) {r : Resource} (hr : r ∈ s.resources)
    (op : Operation) : (Field.tags (r.withAutoColumns.fieldsWith op)).Nodup := by
  refine Field.nodup_tags_of_sublist (h.columns r hr) (List.Sublist.map _ ?_)
  exact List.filter_sublist.map _

/-- Declared fields with different keys stay apart. -/
theorem TagsDistinct.tagsApart (h : s.TagsDistinct) : s.TagsApart where
  objects := h.objects
  bodies r hr _ := h.fieldsWith hr .read
  requests re hre _ := by
    obtain ⟨r, hr, ⟨op, hnames⟩ | ⟨d, hd, rfl⟩ | hone⟩ := names_bodyParams_base hre
    · rw [Field.tags_eq_of_names_eq hnames]
      exact h.fieldsWith hr op
    · rw [Field.tags_eq_of_names_eq (d.names_bodyParams_completed _)]
      exact h.bodies r hr d hd
    · rw [Field.tags_eq]
      exact (List.nodup_singleton _).sublist (hone.map Naming.camelCase)

/-- **The fields in the document of an expanded service.**  The properties of an object stand under
the keys of its fields, each where a field has it first, and under a key stands the schema of the
last field that has it.  So the schema has all fields, and no key twice among the required ones, if
and only if the keys are different.  This is so for all objects if and only if it is so for those
that are not derived from others, and it is so if the declared fields have different keys. -/
theorem fields_expand_iff (h : s.expand = .ok e) (hd : e.openApi = .ok doc) :
    (∀ x ∈ e.objects, (doc.ShowsFields x ↔ (Field.tags x.fields).Nodup) ∧
      ∃ properties, doc.at? ["components", "schemas", x.name, "properties"] =
          some (.object properties) ∧
        properties.map (·.1) = (Field.tags x.fields).eraseDups ∧
        ∀ key, properties.lookup key = (Field.properties x.fields).reverse.lookup key) ∧
    ((∀ x ∈ e.objects, doc.ShowsFields x) ↔ s.TagsApart) ∧ (s.TagsDistinct → s.TagsApart) := by
  have hnames := nodup_names_document h hd
  have hshows : ∀ x ∈ e.objects, (doc.ShowsFields x ↔ (Field.tags x.fields).Nodup) := by
    rw [eq_openApiDocument_of_openApi hd]
    exact fun x hx => showsFields_iff hnames hx
  refine ⟨fun x hx => ⟨hshows x hx, _, ?_, ?_, lookup_ofEntries _⟩, ?_, TagsDistinct.tagsApart⟩
  · rw [eq_openApiDocument_of_openApi hd]
    exact (at?_objectSchema hnames hx ["properties"]).trans x.at?_properties
  · rw [keys_ofEntries, Field.keys_properties]
  · rw [← nodup_tags_expand_iff h]
    exact forall₂_congr hshows

theorem fields_expand_bookshop :
    bookshop.expand = .ok bookshop.base.withFilters ∧
      bookshop.base.withFilters.openApi = .ok bookshop.base.withFilters.openApiDocument ∧
      ∀ x ∈ bookshop.base.withFilters.objects,
        bookshop.base.withFilters.openApiDocument.ShowsFields x := by
  obtain ⟨-, hiff, hdistinct⟩ := fields_expand_iff bookshop_expand bookshop_openApi
  have htags : bookshop.TagsDistinct := ⟨by decide, by decide +kernel, by decide⟩
  exact ⟨bookshop_expand, bookshop_openApi, hiff.mpr (hdistinct htags)⟩

/-- A service with a resource that declares a column with the key of the implicit identifier. -/
def registry : Service where
  name := "Registry"
  resources :=
    [{ name := "Person"
       operations := [.read]
       fields :=
         [{ field := { name := "id", type := .primitive .int }
            operations := [.read] }] }]

/-- The identifier has the schema of the declared column, and is required twice. -/
theorem registry_field_lost :
    registry.violations = [] ∧ registry.expand = .ok registry.base.withFilters ∧
      registry.base.withFilters.openApi = .ok registry.base.withFilters.openApiDocument ∧
      ∃ x ∈ registry.base.withFilters.objects, x.name = "Person" ∧
        x.fieldNames = ["ID", "Meta", "id"] ∧ Field.requiredTags x.fields = ["id", "meta", "id"] ∧
        ¬ registry.base.withFilters.openApiDocument.ShowsFields x := by
  have hs : registry.Expandable := ⟨by decide +kernel, by decide +kernel, by decide +kernel⟩
  have he : registry.expand = .ok registry.base.withFilters :=
    expand_eq_ok_iff.mpr ⟨hs, by decide +kernel, rfl⟩
  have hd : registry.base.withFilters.openApi = .ok registry.base.withFilters.openApiDocument :=
    openApi_eq_ok_iff.mpr (by decide +kernel)
  obtain ⟨x, hx, hname, hfields, hrequired, htags⟩ : ∃ x ∈ registry.base.withFilters.objects,
      x.name = "Person" ∧ x.fieldNames = ["ID", "Meta", "id"] ∧
        Field.requiredTags x.fields = ["id", "meta", "id"] ∧ ¬ (Field.tags x.fields).Nodup := by
    decide +kernel
  refine ⟨hs.valid, he, hd, x, hx, hname, hfields, hrequired, ?_⟩
  rwa [showsFields_iff (nodup_names_document he hd) hx]

end Service

end ServiceSpec
