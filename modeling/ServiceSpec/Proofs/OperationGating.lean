import ServiceSpec.Proofs.ExpectedNames
import ServiceSpec.Proofs.UniqueNames

/-!
# Operations and endpoints

The operations of a resource decide which standard endpoints it has, and the operations of its
columns decide what these and the body of the resource carry.  A standard endpoint is there if the
operation is allowed or the resource declares an endpoint of the same name; then the declared one
stays.  The implicit columns are read where the resource is and take part in nothing else, so the
bodies of creation and update have declared columns only.

Error responses are not taken from what is declared.  They follow from the request: only a request
with a body can fail its validation.

## Main definitions

* `Resource.callsFor`: the names of standard endpoints and the operations they are there for
* `Resource.ServedBy`: the endpoints that a resource has in an expanded service
* `Endpoint.ListsErrors`: the error responses that an endpoint has in an expanded service

## Main results

* `findEndpoint?_completed`: what stands under the name of a standard endpoint
* `fieldsWith_completed`: the columns that take part in an operation
* `operations_gate_expandBase`: the endpoints and bodies of the outcome of base expansion
-/

namespace ServiceSpec

/-! ## Standard endpoints -/

theorem StandardEndpoint.mem_all (k : StandardEndpoint) : k ∈ all := by
  cases k <;> decide

theorem StandardEndpoint.name_injective {j k : StandardEndpoint} (h : j.name = k.name) : j = k := by
  have hall : ∀ j ∈ all, ∀ k ∈ all, j.name = k.name → j = k := by decide
  exact hall j j.mem_all k k.mem_all h

@[simp] theorem Endpoint.name_withErrorResponses (e : Endpoint) :
    e.withErrorResponses.name = e.name := rfl

namespace Resource

variable {r : Resource} {i : TypeIndex}

/-- What a resource lacks is what it is entitled to and does not declare. -/
theorem mem_missingEndpoints {k : StandardEndpoint} :
    k ∈ r.missingEndpoints ↔ r.allows k.operation ∧ (r.findEndpoint? k.name).isNone := by
  rw [missingEndpoints, List.mem_filter, and_iff_right k.mem_all, Bool.and_eq_true]

/-- A standard endpoint is found under its name, and nothing else is. -/
theorem find?_missingEndpoints (r : Resource) (k : StandardEndpoint) :
    r.missingEndpoints.find? (fun j => j.name = k.name) =
      if k ∈ r.missingEndpoints then some k else none := by
  cases hfind : r.missingEndpoints.find? (fun j => j.name = k.name) with
  | some j =>
    obtain rfl : j = k := StandardEndpoint.name_injective (by simpa using List.find?_some hfind)
    rw [if_pos (List.mem_of_find?_eq_some hfind)]
  | none =>
    rw [if_neg]
    exact fun hk => by simpa using List.find?_eq_none.mp hfind k hk

/-- **What stands under the name of a standard endpoint**: the standard endpoint where it was
missing, and otherwise what is declared. -/
theorem findEndpoint?_completed (i : TypeIndex) (r : Resource) (k : StandardEndpoint) :
    (r.completed i).findEndpoint? k.name =
      if k ∈ r.missingEndpoints then some (k.build (r.completed i)).withErrorResponses
      else (r.findEndpoint? k.name).map (·.completed i) := by
  have hadded : (r.missingEndpoints.map fun j =>
      (j.build (r.completed i)).withErrorResponses).find? (·.name = k.name) =
        if k ∈ r.missingEndpoints then some (k.build (r.completed i)).withErrorResponses
        else none := by
    have hname : (fun e : Endpoint => decide (e.name = k.name)) ∘
        (fun j : StandardEndpoint => (j.build (r.completed i)).withErrorResponses) =
          fun j => decide (j.name = k.name) := funext fun j => by simp
    rw [List.find?_map, hname, find?_missingEndpoints]
    split <;> rfl
  have hdeclared : (r.endpoints.map (·.completed i)).find? (·.name = k.name) =
      (r.findEndpoint? k.name).map (·.completed i) := by
    rw [List.find?_map]
    rfl
  rw [findEndpoint?, endpoints_completed, List.find?_append, hadded, hdeclared]
  by_cases hk : k ∈ r.missingEndpoints <;> simp [hk]

/-! ## Columns of an operation -/

/-- The implicit columns are read where the resource is, and take part in nothing else. -/
theorem filter_missingColumns (r : Resource) (op : Operation) :
    r.missingColumns.filter (·.allows op) =
      if op = .read ∧ r.allows .read then r.missingColumns else [] := by
  have hauto : ∀ c ∈ r.missingColumns, c.allows op ↔ op = .read ∧ r.allows .read := by
    intro c hc
    rw [← mem_autoOperations, ResourceField.allows, List.contains_iff_mem]
    rcases eq_of_mem_missingColumns hc with rfl | rfl <;> rfl
  split
  · rw [List.filter_eq_self]
    exact fun c hc => (hauto c hc).mpr ‹_›
  · rw [List.filter_eq_nil_iff]
    exact fun c hc => mt (hauto c hc).mp ‹_›

/-- **The columns that take part in an operation**: implicit ones, if the operation is to read, and
then those declared. -/
theorem fieldsWith_completed (i : TypeIndex) (r : Resource) (op : Operation) :
    (r.completed i).fieldsWith op =
      (if op = .read ∧ r.allows .read then r.missingColumns else []).map (·.field) ++
        (r.fieldsWith op).map (·.settledBy i) := by
  rw [← filter_missingColumns, fieldsWith, fieldsWith, completed]
  simp only [List.filter_append, List.filter_map, List.map_append, List.map_map]
  rfl

/-- Creation and update take declared columns only. -/
theorem fieldsWith_completed_of_ne (i : TypeIndex) (r : Resource) {op : Operation}
    (h : op ≠ .read) : (r.completed i).fieldsWith op = (r.fieldsWith op).map (·.settledBy i) := by
  rw [fieldsWith_completed, if_neg fun hop => h hop.1]
  rfl

/-! ## Endpoints of a resource -/

/-- The names of standard endpoints, in the order in which a resource gets them, each with the
operation that it is there for. -/
def callsFor : List (String × Operation) :=
  [("Create", .create), ("Get", .read), ("List", .read), ("Update", .update), ("Delete", .delete),
    ("Search", .read)]

/-- The endpoints that the resource `x` has in place of those of `r`: endpoints made for operations,
in the order of their names, then those declared.  Bodies of creation and update have the declared
columns that take part in it. -/
structure ServedBy (i : TypeIndex) (r x : Resource) (added : List Endpoint) : Prop where
  /-- A standard endpoint is there if its operation is allowed or its name is declared. -/
  gate : ∀ c ∈ callsFor,
    (x.findEndpoint? c.1).isSome ↔ r.allows c.2 ∨ (r.findEndpoint? c.1).isSome
  endpoints : x.endpoints = added ++ r.endpoints.map (·.completed i)
  names : added.map (·.name) =
    (callsFor.filter fun c => r.allows c.2 && (r.findEndpoint? c.1).isNone).map (·.1)
  create : ∀ e ∈ added, e.name = "Create" →
    e.request.bodyParams = (r.fieldsWith .create).map (·.settledBy i)
  update : ∀ e ∈ added, e.name = "Update" →
    e.request.bodyParams = (r.fieldsWith .update).map (·.settledBy i)

/-- An added endpoint is the standard endpoint of its name. -/
theorem eq_build_of_name_eq {x : Resource} {e : Endpoint} {k : StandardEndpoint}
    (he : e ∈ r.missingEndpoints.map fun k => (k.build x).withErrorResponses)
    (hn : e.name = k.name) : e = (k.build x).withErrorResponses := by
  obtain ⟨j, -, rfl⟩ := List.mem_map.mp he
  obtain rfl : j = k := StandardEndpoint.name_injective (by simpa using hn)
  rfl

theorem map_all_eq_callsFor :
    StandardEndpoint.all.map (fun k => (k.name, k.operation)) = callsFor :=
  rfl

/-- A standard endpoint is there if its operation is allowed or its name is declared. -/
theorem isSome_findEndpoint?_completed (i : TypeIndex) (r : Resource) (k : StandardEndpoint) :
    ((r.completed i).findEndpoint? k.name).isSome ↔
      r.allows k.operation ∨ (r.findEndpoint? k.name).isSome := by
  rw [findEndpoint?_completed]
  by_cases hk : k ∈ r.missingEndpoints
  · simp [hk, (mem_missingEndpoints.mp hk).1]
  · rw [if_neg hk, Option.isSome_map]
    have hdeclared : r.allows k.operation → (r.findEndpoint? k.name).isSome := by
      intro hallows
      rw [mem_missingEndpoints, not_and, Option.isNone_iff_eq_none] at hk
      exact Option.ne_none_iff_isSome.mp (hk hallows)
    constructor
    · exact .inr
    · rintro (hallows | hsome)
      · exact hdeclared hallows
      · exact hsome

/-- **A complete resource is served by its operations.** -/
theorem servedBy_completed (i : TypeIndex) (r : Resource) :
    r.ServedBy i (r.completed i)
      (r.missingEndpoints.map fun k => (k.build (r.completed i)).withErrorResponses) where
  gate c hc := by
    rw [← map_all_eq_callsFor] at hc
    obtain ⟨k, -, rfl⟩ := List.mem_map.mp hc
    exact isSome_findEndpoint?_completed i r k
  endpoints := endpoints_completed i r
  names := by
    rw [← map_all_eq_callsFor, List.filter_map, List.map_map, List.map_map]
    exact List.map_congr_left fun k _ => k.name_build _
  create e he hn := by
    rw [eq_build_of_name_eq (k := .create) he hn]
    exact fieldsWith_completed_of_ne i r (by decide)
  update e he hn := by
    rw [eq_build_of_name_eq (k := .update) he hn]
    exact fieldsWith_completed_of_ne i r (by decide)

end Resource

/-! ## Error responses -/

/-- The error responses of the endpoint as an expanded service has them: each code once, that of a
failed validation for requests with a body only, and every response with a body that is there. -/
structure Endpoint.ListsErrors (b : Service) (e : Endpoint) : Prop where
  unprocessable : 422 ∈ e.errorResponses.map (·.statusCode) ↔ e.hasBody
  always : ∀ code ∈ [400, 401, 403, 404, 409, 429, 500],
    code ∈ e.errorResponses.map (·.statusCode)
  once : (e.errorResponses.map (·.statusCode)).Nodup
  bodies : ∀ x ∈ e.errorResponses, x.bodyObject ∈ b.objectNames

/-- The code of a failed validation stands in its place among the codes that are always listed. -/
theorem Standard.statusCodes_errorResponses (hasBody : Bool) :
    (errorResponses hasBody).map (·.statusCode) =
      [400, 401, 403, 404, 409] ++ (if hasBody then [422] else []) ++ [429, 500] := by
  cases hasBody <;> rfl

/-- What an endpoint lists depends on whether its requests have a body, and on nothing else. -/
theorem Endpoint.listsErrors_withErrorResponses {b : Service}
    (hb : Standard.error ∈ b.objectNames) (e : Endpoint) :
    e.withErrorResponses.ListsErrors b where
  unprocessable := by
    change 422 ∈ (Standard.errorResponses e.hasBody).map (·.statusCode) ↔ e.hasBody
    rw [Standard.statusCodes_errorResponses]
    cases e.hasBody <;> decide
  always code hcode := by
    change code ∈ (Standard.errorResponses e.hasBody).map (·.statusCode)
    change code ∈ [400, 401, 403, 404, 409] ++ [429, 500] at hcode
    rw [Standard.statusCodes_errorResponses]
    rcases List.mem_append.mp hcode with hcode | hcode
    · exact List.mem_append_left _ (List.mem_append_left _ hcode)
    · exact List.mem_append_right _ hcode
  once := by
    change ((Standard.errorResponses e.hasBody).map (·.statusCode)).Nodup
    rw [Standard.statusCodes_errorResponses]
    cases e.hasBody <;> decide
  bodies x hx := by
    rw [Standard.bodyObject_of_mem_errorResponses hx]
    exact hb

namespace Service

variable {s b : Service}

/-- Endpoints of the outcome have got their error responses. -/
theorem exists_withErrorResponses_of_mem {re : Resource × Endpoint}
    (h : re ∈ s.base.endpoints) : ∃ e : Endpoint, e.withErrorResponses = re.2 := by
  obtain ⟨r, -, -, he⟩ := mem_endpoints_base.mp h
  rcases Resource.mem_endpoints_completed.mp he with ⟨k, -, heq⟩ | ⟨d, -, heq⟩
  · exact ⟨_, heq⟩
  · exact ⟨_, heq⟩

/-- The resources of the outcome are found under their names. -/
theorem findResource?_base (hw : s.WellNamed) {r : Resource} (hr : r ∈ s.resources) :
    s.base.findResource? r.name = some (r.completed (.expected s)) := by
  have hnames : (s.base.resources.map (·.name)).Nodup := by
    rw [resources_base_eq, List.map_map]
    exact hw.resources
  refine (find?_key_eq_some_iff hnames).mpr ⟨?_, rfl⟩
  rw [resources_base_eq]
  exact List.mem_map_of_mem hr

/-- **Operations gate the endpoints and bodies of a service.**  Base expansion gives every resource
the standard endpoints that its operations call for and that it does not declare, before those it
declares.  The body of a resource that is made has the columns that are read, and every endpoint
lists the errors that its request calls for, whatever it declared. -/
theorem operations_gate_expandBase (h : s.expandBase = .ok b) :
    (∀ r ∈ s.resources, ∃ x, b.findResource? r.name = some x ∧
      (∃ added, r.ServedBy (.expected s) x added) ∧
      (s.LacksBody r → ∃ y, b.findObject? r.name = some y ∧ y.fields = x.fieldsWith .read ∧
        y.fields = r.missingColumns.map (·.field) ++
          (r.fieldsWith .read).map (·.settledBy (.expected s)))) ∧
    ∀ re ∈ b.endpoints, re.2.ListsErrors b := by
  obtain ⟨hs, rfl⟩ := expandBase_eq_ok_iff.mp h
  have hw := wellNamed_of_violations hs.valid
  refine ⟨fun r hr => ⟨_, findResource?_base hw hr, ⟨_, r.servedBy_completed _⟩, fun hl => ?_⟩,
    fun re hre => ?_⟩
  · have hmem : (r.completed (.expected s)).bodyObject ∈ s.base.objects := by
      rw [objects_base, objects_entities]
      exact List.mem_append_left _ (List.mem_append_right _
        (List.mem_map_of_mem (List.mem_filter.mpr ⟨hr, by simpa using hl⟩)))
    refine ⟨_, (findObject?_eq_some_iff (nodup_objectNames_base hw)).mpr ⟨hmem, rfl⟩, rfl, ?_⟩
    rw [Resource.bodyObject, Resource.fieldsWith_completed, if_pos ⟨rfl, hl.1⟩]
  · obtain ⟨e, he⟩ := exists_withErrorResponses_of_mem hre
    rw [← he]
    refine e.listsErrors_withErrorResponses (mem_objectNames_base_of_owner ?_)
    exact mem_expectedOwners.mpr (.inr (.inl (by decide)))

/-- The loan declares how it is got, and gets the other endpoints that its operations call for. -/
theorem operations_gate_lending :
    lending.expandBase = .ok lending.base ∧
      (∃ x, lending.base.findResource? "Loan" = some x ∧
        x.endpoints.map (·.name) = ["Create", "List", "Update", "Search", "Get", "Close"]) ∧
      (∀ r ∈ lending.resources, ∃ x, lending.base.findResource? r.name = some x ∧
        (∃ added, r.ServedBy (.expected lending) x added) ∧
        (lending.LacksBody r → ∃ y, lending.base.findObject? r.name = some y ∧
          y.fields = x.fieldsWith .read ∧ y.fields = r.missingColumns.map (·.field) ++
            (r.fieldsWith .read).map (·.settledBy (.expected lending)))) ∧
      ∀ re ∈ lending.base.endpoints, re.2.ListsErrors lending.base := by
  have hs := (expand_eq_ok_iff.mp lending_expand).1
  have he : lending.expandBase = .ok lending.base := expandBase_eq_ok_iff.mpr ⟨hs, rfl⟩
  obtain ⟨hresources, herrors⟩ := operations_gate_expandBase he
  refine ⟨he, ?_, hresources, herrors⟩
  have hloan : ∀ r ∈ lending.resources, r.name = "Loan" →
      (r.completed (.expected lending)).endpoints.map (·.name) =
        ["Create", "List", "Update", "Search", "Get", "Close"] := by decide +kernel
  obtain ⟨r, hr, hn⟩ : ∃ r ∈ lending.resources, r.name = "Loan" := by decide
  exact ⟨_, hn ▸ findResource?_base (wellNamed_of_violations hs.valid) hr, hloan r hr hn⟩

end Service

end ServiceSpec
