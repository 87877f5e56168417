import ServiceSpec.Proofs.ExpandedFilters
import ServiceSpec.Proofs.OperationGating

/-!
# Columns that are not read

What a reader of a resource is shown must not tell which columns there are that cannot be read.
Such columns do reach the expanded service: they are in the bodies of creation and update, in the
error objects of these, and in the error objects of what they refer to.  So the two services that
are compared here may differ in which objects there are.

None of this reaches the object that the resource is read as.  That object and its filters come from
entities, and entities are made before error objects; filters are given out in the order of objects,
so error objects cannot take the filters of an entity or keep it from having them.  The standard
endpoints for readers are made of the name and the operations of the resource.

A column named like an implicit one is not hidden, whatever its operations: it keeps the implicit
column from being added.

## Main definitions

* `ResourceField.isVisible`: a column that a reader can tell is there
* `Resource.SameForReaders`: two resources that differ in columns that are not visible
* `Service.SameButHidden`: two services that differ in such columns of one resource

## Main results

* `findObject?_expand_of_mem_filterNames`: the filters of an entity do not depend on error objects
* `hidden_columns_unobservable`: services that are the same but for hidden columns expand to the
  same for readers
-/

namespace ServiceSpec

/-! ## Visible columns -/

/-- A column that a reader of the resource can tell is there: it is read, or it stands in the place
of an implicit column. -/
def ResourceField.isVisible (c : ResourceField) : Bool :=
  c.allows .read || c.name = Standard.idField || c.name = Standard.auditField

namespace Resource

/-- Two resources that are the same but for columns that are not visible. -/
structure SameForReaders (r₁ r₂ : Resource) : Prop where
  name : r₁.name = r₂.name
  description : r₁.description = r₂.description
  operations : r₁.operations = r₂.operations
  endpoints : r₁.endpoints = r₂.endpoints
  skipAutoColumns : r₁.skipAutoColumns = r₂.skipAutoColumns
  columns : r₁.fields.filter (·.isVisible) = r₂.fields.filter (·.isVisible)

variable {r r₁ r₂ : Resource} {i : TypeIndex}

/-- A property of visible columns finds its columns among those that are visible. -/
theorem filter_eq_filter_visible {p : ResourceField → Bool} (hp : ∀ c, p c → c.isVisible)
    (fields : List ResourceField) :
    fields.filter p = (fields.filter (·.isVisible)).filter p := by
  rw [List.filter_filter]
  refine List.filter_congr fun c _ => ?_
  cases hc : p c
  · rfl
  · rw [hp c hc]
    rfl

namespace SameForReaders

theorem allows_eq (h : r₁.SameForReaders r₂) (op : Operation) : r₁.allows op = r₂.allows op := by
  rw [allows, allows, h.operations]

theorem filter_fields (h : r₁.SameForReaders r₂) {p : ResourceField → Bool}
    (hp : ∀ c, p c → c.isVisible) : r₁.fields.filter p = r₂.fields.filter p := by
  rw [filter_eq_filter_visible hp, h.columns, ← filter_eq_filter_visible hp]

theorem findField?_isNone_eq (h : r₁.SameForReaders r₂) {n : String}
    (hn : n = Standard.idField ∨ n = Standard.auditField) :
    (r₁.findField? n).isNone = (r₂.findField? n).isNone := by
  have hvisible : ∀ c : ResourceField, decide (c.name = n) → c.isVisible := by
    intro c hc
    rcases hn with rfl | rfl <;> simp [ResourceField.isVisible, of_decide_eq_true hc]
  rw [findField?, findField?, ← List.head?_filter, ← List.head?_filter, h.filter_fields hvisible]

theorem missingColumns_eq (h : r₁.SameForReaders r₂) : r₁.missingColumns = r₂.missingColumns := by
  have hauto : r₁.autoOperations = r₂.autoOperations := by
    rw [autoOperations, autoOperations, h.allows_eq]
  have hid : r₁.idColumn = r₂.idColumn := by
    rw [idColumn, idColumn, idParam, idParam, hauto, h.name]
  have haudit : r₁.auditColumn = r₂.auditColumn := by
    rw [auditColumn, auditColumn, hauto]
  -- each of the two is missing from both or from none
  have hfilter : [r₂.idColumn, r₂.auditColumn].filter (fun c => (r₁.findField? c.name).isNone) =
      [r₂.idColumn, r₂.auditColumn].filter fun c => (r₂.findField? c.name).isNone := by
    refine List.filter_congr fun c hc => h.findField?_isNone_eq ?_
    rcases List.mem_cons.mp hc with rfl | hc
    · exact .inl rfl
    · obtain rfl := List.mem_singleton.mp hc
      exact .inr rfl
  rw [missingColumns, missingColumns, h.skipAutoColumns, hid, haudit, hfilter]

theorem fieldsWith_read_eq (h : r₁.SameForReaders r₂) :
    (r₁.completed i).fieldsWith .read = (r₂.completed i).fieldsWith .read := by
  have hread : ∀ c : ResourceField, c.allows .read → c.isVisible := fun c hc => by
    simp [ResourceField.isVisible, hc]
  rw [fieldsWith_completed, fieldsWith_completed, h.allows_eq, h.missingColumns_eq,
    fieldsWith, fieldsWith, h.filter_fields hread]

/-- Both resources are read as the same object. -/
theorem bodyObject_eq (h : r₁.SameForReaders r₂) :
    (r₁.completed i).bodyObject = (r₂.completed i).bodyObject := by
  have hname : (r₁.completed i).name = (r₂.completed i).name := h.name
  have hdescription : (r₁.completed i).description = (r₂.completed i).description := h.description
  rw [bodyObject, bodyObject, hname, hdescription, h.fieldsWith_read_eq]

theorem missingEndpoints_eq (h : r₁.SameForReaders r₂) :
    r₁.missingEndpoints = r₂.missingEndpoints := by
  rw [missingEndpoints, missingEndpoints]
  refine List.filter_congr fun k _ => ?_
  rw [h.allows_eq, findEndpoint?, findEndpoint?, h.endpoints]

end SameForReaders

/-- Other standard endpoints than those for creation and update are made of the name of the
resource. -/
theorem build_congr_of_ne {x : Resource} (hn : x.name = r.name) {k : StandardEndpoint}
    (hcreate : k ≠ .create) (hupdate : k ≠ .update) : k.build x = k.build r := by
  cases k with
  | create => contradiction
  | update => contradiction
  | get | list | delete | search =>
    simp only [StandardEndpoint.build, StandardEndpoint.filterParam, itemPath, idParam,
      pageEnvelope, hn]

/-- Both resources have the same standard endpoints but for creation and update. -/
theorem SameForReaders.findEndpoint?_eq (h : r₁.SameForReaders r₂) {k : StandardEndpoint}
    (hcreate : k ≠ .create) (hupdate : k ≠ .update) :
    (r₁.completed i).findEndpoint? k.name = (r₂.completed i).findEndpoint? k.name := by
  have hname : (r₁.completed i).name = (r₂.completed i).name := h.name
  have hbuild : k.build (r₁.completed i) = k.build (r₂.completed i) :=
    build_congr_of_ne hname hcreate hupdate
  rw [findEndpoint?_completed, findEndpoint?_completed, h.missingEndpoints_eq, hbuild,
    findEndpoint?, findEndpoint?, h.endpoints]

end Resource

/-! ## Filters of entities -/

namespace Service

variable {s b : Service} {x : Object} {n : String}

/-- An object that is no owner has nothing added under its filter names. -/
theorem findObject?_withFilters_of_notMem (hb : b.objectNames.Nodup) (hx : x ∈ b.objects)
    (hnot : x ∉ b.filterOwners) (hn : n ∈ Standard.filterNames x.name) :
    b.withFilters.findObject? n = b.findObject? n := by
  have hnone : (missingFilters b.objectNames [] b.objects).find? (·.name = n) = none := by
    rw [List.find?_eq_none]
    intro f hf heq
    obtain ⟨o, ho, hfo⟩ := exists_owner_of_mem_missingFilters hf
    have hfn : n ∈ Standard.filterNames o.name :=
      of_decide_eq_true heq ▸ Object.name_mem_filterNames hfo
    have hxo : x = o := eq_of_name_eq hb hx (mem_of_mem_filterOwners ho)
      (Standard.eq_of_mem_filterNames hn hfn)
    exact hnot (hxo ▸ ho)
  rw [findObject?, withFilters, List.find?_append, hnone, Option.or_none]
  rfl

/-- Error objects come after the entities, so they do not decide which entities are owners. -/
theorem mem_filterOwners_base_iff (hx : x ∈ s.entities.objects) :
    x ∈ s.base.filterOwners ↔ x ∈ s.entities.filterOwners := by
  rw [filterOwners, filterOwners, objects_base, filterOwners_append, List.mem_append,
    or_iff_left_iff_imp]
  intro hlater
  have herror := List.mem_map_of_mem (f := Object.name) (mem_of_mem_filterOwners hlater)
  exact absurd (List.mem_map_of_mem hx) (RequestErrors.name_notMem_known herror)

/-- **The filters of an entity do not depend on error objects.** -/
theorem findObject?_expand_of_mem_filterNames (hw : s.WellNamed) (hx : x ∈ s.entities.objects)
    (hn : n ∈ Standard.filterNames x.name) :
    s.base.withFilters.findObject? n = s.entities.withFilters.findObject? n := by
  have hentities := nodup_objectNames_entities hw
  have hbase := nodup_objectNames_base hw
  by_cases ho : x ∈ s.entities.filterOwners
  · rw [← x.name_filters] at hn
    obtain ⟨f, hf, rfl⟩ := List.mem_map.mp hn
    rw [findObject?_withFilters hbase ((mem_filterOwners_base_iff hx).mpr ho) hf,
      findObject?_withFilters hentities ho hf,
      findObject?_base_of_mem_filterNames (Object.name_mem_filterNames hf)]
  · have hmem : x ∈ s.base.objects := objects_base s ▸ List.mem_append_left _ hx
    rw [findObject?_withFilters_of_notMem hbase hmem
        (mt (mem_filterOwners_base_iff hx).mp ho) hn,
      findObject?_withFilters_of_notMem hentities hx ho hn,
      findObject?_base_of_mem_filterNames hn]

/-- An entity is found under its name. -/
theorem findObject?_expand_of_mem_entities (hw : s.WellNamed) (hx : x ∈ s.entities.objects) :
    s.base.withFilters.findObject? x.name = some x := by
  apply (findObject?_eq_some_iff (nodup_objectNames_withFilters (nodup_objectNames_base hw))).mpr
  exact ⟨List.mem_append_left _ (List.mem_append_left _ hx), rfl⟩

/-! ## Two services -/

/-- Two services that are the same but for the resource `r₁` of the first, in whose place the second
has `r₂`, which differs from it in columns that are not visible. -/
structure SameButHidden (s₁ s₂ : Service) (r₁ r₂ : Resource) : Prop where
  name : s₁.name = s₂.name
  version : s₁.version = s₂.version
  servers : s₁.servers = s₂.servers
  enums : s₁.enums = s₂.enums
  objects : s₁.objects = s₂.objects
  resources : ∃ pre post, s₁.resources = pre ++ r₁ :: post ∧ s₂.resources = pre ++ r₂ :: post
  same : r₁.SameForReaders r₂

namespace SameButHidden

variable {s₁ s₂ : Service} {r₁ r₂ : Resource}

theorem objectNames_eq (h : s₁.SameButHidden s₂ r₁ r₂) : s₁.objectNames = s₂.objectNames := by
  rw [objectNames, objectNames, h.objects]

theorem readableNames_eq (h : s₁.SameButHidden s₂ r₁ r₂) :
    s₁.readableNames = s₂.readableNames := by
  obtain ⟨pre, post, h₁, h₂⟩ := h.resources
  simp only [readableNames, h₁, h₂, List.filter_append, List.filter_cons, h.same.allows_eq]
  split <;> simp [h.same.name]

/-- Both services are resolved against the same names. -/
theorem expected_eq (h : s₁.SameButHidden s₂ r₁ r₂) :
    TypeIndex.expected s₁ = TypeIndex.expected s₂ := by
  rw [TypeIndex.expected, TypeIndex.expected, expectedOwners_eq, expectedOwners_eq,
    h.objectNames_eq, h.readableNames_eq, enumNames, enumNames, h.enums]

/-- **Both services have the same entities.** -/
theorem entities_eq (h : s₁.SameButHidden s₂ r₁ r₂) :
    s₁.entities.objects = s₂.entities.objects := by
  have hlacks : ∀ r, s₁.LacksBody r ↔ s₂.LacksBody r := fun r => by
    rw [LacksBody, LacksBody, h.objectNames_eq]
  have hsame : s₂.LacksBody r₁ ↔ s₂.LacksBody r₂ := by
    rw [LacksBody, LacksBody, h.same.allows_eq, h.same.name]
  obtain ⟨pre, post, h₁, h₂⟩ := h.resources
  have hbodies : ((pre ++ r₁ :: post).filter (s₂.LacksBody ·)).map
      (fun r => (r.completed (.expected s₂)).bodyObject) =
        ((pre ++ r₂ :: post).filter (s₂.LacksBody ·)).map
          fun r => (r.completed (.expected s₂)).bodyObject := by
    simp only [List.filter_append, List.filter_cons, hsame]
    split <;> simp [h.same.bodyObject_eq]
  rw [objects_entities, objects_entities, completedObjects, completedObjects, h₁, h₂,
    h.expected_eq, h.objects, h.objectNames_eq]
  simp only [hlacks]
  exact congrArg _ hbodies

end SameButHidden

/-- **Columns that are not read cannot be told from what readers are shown.**  Two services that are
the same but for such columns of a readable resource expand to services that agree on the object
that it is read as, on the filters of this object, and on the endpoints to get, list, search and
delete. -/
theorem hidden_columns_unobservable {s₁ s₂ e₁ e₂ : Service} {r₁ r₂ : Resource}
    (h : s₁.SameButHidden s₂ r₁ r₂) (hread : r₁.allows .read)
    (h₁ : s₁.expand = .ok e₁) (h₂ : s₂.expand = .ok e₂) :
    (∃ x, e₁.findObject? r₁.name = some x ∧ e₂.findObject? r₁.name = some x) ∧
    (∀ n ∈ Standard.filterNames r₁.name, e₁.findObject? n = e₂.findObject? n) ∧
    ∃ x₁ x₂, e₁.findResource? r₁.name = some x₁ ∧ e₂.findResource? r₁.name = some x₂ ∧
      ∀ k ∈ [StandardEndpoint.get, .list, .search, .delete],
        x₁.findEndpoint? k.name = x₂.findEndpoint? k.name := by
  obtain ⟨hs₁, -, rfl⟩ := expand_eq_ok_iff.mp h₁
  obtain ⟨hs₂, -, rfl⟩ := expand_eq_ok_iff.mp h₂
  have hw₁ := wellNamed_of_violations hs₁.valid
  have hw₂ := wellNamed_of_violations hs₂.valid
  obtain ⟨pre, post, hr₁, hr₂⟩ := h.resources
  have hmem₁ : r₁ ∈ s₁.resources := by simp [hr₁]
  have hmem₂ : r₂ ∈ s₂.resources := by simp [hr₂]
  obtain ⟨x, hx, hname⟩ : ∃ x ∈ s₁.entities.objects, x.name = r₁.name :=
    List.mem_map.mp (mem_objectNames_entities.mpr (mem_expectedOwners.mpr
      (.inr (.inr (mem_readableNames.mpr ⟨r₁, hmem₁, hread, rfl⟩)))))
  have hx₂ : x ∈ s₂.entities.objects := h.entities_eq ▸ hx
  refine ⟨⟨x, ?_, ?_⟩, fun n hn => ?_, ?_⟩
  · rw [← hname]
    exact findObject?_expand_of_mem_entities hw₁ hx
  · rw [← hname]
    exact findObject?_expand_of_mem_entities hw₂ hx₂
  · rw [← hname] at hn
    rw [findObject?_expand_of_mem_filterNames hw₁ hx hn,
      findObject?_expand_of_mem_filterNames hw₂ hx₂ hn]
    simp only [findObject?, withFilters, objectNames, h.entities_eq]
  · refine ⟨r₁.completed (.expected s₁), r₂.completed (.expected s₂),
      findResource?_base hw₁ hmem₁, ?_, fun k hk => ?_⟩
    · rw [h.same.name]
      exact findResource?_base hw₂ hmem₂
    · rw [h.expected_eq]
      apply h.same.findEndpoint?_eq
      · rintro rfl
        simp at hk
      · rintro rfl
        simp at hk

/-- A resource that is read by its owner. -/
def account : Resource where
  name := "Account"
  operations := [.create, .read]
  fields := [{ field := { name := "Owner", type := .primitive .uuid }, operations := [.read] }]

/-- The resource with a column that is written only. -/
def accountWithSecret : Resource :=
  { account with
    fields := { field := { name := "Pin", type := .named "Secret" }, operations := [.create] } ::
      account.fields }

/-- A service with a resource for accounts. -/
def bank (account : Resource) : Service where
  name := "Bank"
  objects := [{ name := "Secret", fields := [{ name := "digits", type := .primitive .string }] }]
  resources := [account, { name := "Branch", operations := [.read] }]

/-- The column brings error objects into the service, and readers of accounts see none of it. -/
theorem hidden_columns_unobservable_bank :
    (bank account).SameButHidden (bank accountWithSecret) account accountWithSecret ∧
      account.allows .read ∧
      (bank account).expand = .ok (bank account).base.withFilters ∧
      (bank accountWithSecret).expand = .ok (bank accountWithSecret).base.withFilters ∧
      "SecretRequestError" ∉ (bank account).base.withFilters.objectNames ∧
      "SecretRequestError" ∈ (bank accountWithSecret).base.withFilters.objectNames ∧
      ∀ n ∈ Standard.filterNames "Account", (bank account).base.withFilters.findObject? n =
        (bank accountWithSecret).base.withFilters.findObject? n := by
  have hsame : (bank account).SameButHidden (bank accountWithSecret) account accountWithSecret :=
    ⟨rfl, rfl, rfl, rfl, rfl, ⟨[], _, rfl, rfl⟩, ⟨rfl, rfl, rfl, rfl, rfl, by decide⟩⟩
  have he₁ : (bank account).expand = .ok (bank account).base.withFilters :=
    expand_eq_ok_iff.mpr ⟨⟨by decide +kernel, by decide +kernel, by decide +kernel⟩,
      by decide +kernel, rfl⟩
  have he₂ : (bank accountWithSecret).expand = .ok (bank accountWithSecret).base.withFilters :=
    expand_eq_ok_iff.mpr ⟨⟨by decide +kernel, by decide +kernel, by decide +kernel⟩,
      by decide +kernel, rfl⟩
  exact ⟨hsame, by decide, he₁, he₂, by decide +kernel, by decide +kernel,
    (hidden_columns_unobservable hsame (by decide) he₁ he₂).2.1⟩

end Service

end ServiceSpec
