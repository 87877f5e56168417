import ServiceSpec.Proofs.Additions
import ServiceSpec.Proofs.Routes
import Mathlib.Data.List.Pairwise

/-!
# Identifiers of operations

An operation is identified by the camel case of the name of its endpoint, followed by the name of
the resource without anything between them.  Where the first part ends cannot be told from the
identifier, so the endpoint `CreateUser` of `Group` and the endpoint `Create` of `UserGroup` have
the same one.  Validation keeps the names of the endpoints of a resource apart, and the names of
resources; it does not look at identifiers, nor does the document.

Identifiers are different as long as no name of an endpoint, in camel case, is the beginning of
another one: then the first part can be told, and with it the second.  The names of the standard
endpoints are of this kind, so only declared endpoints can bring two operations together.

## Main definitions

* `Service.shownEndpoints`: the endpoints whose operations are in the document
* `Document.operationIds`: the identifiers of the operations of a document
* `Service.expectedIds`: the identifiers of the endpoints that a service has once it is expanded
* `Service.IdsApart`: no name of an endpoint is the beginning of another one

## Main results

* `operations_perm`: the operations of a document are those of the endpoints shown
* `IdsApart.nodup_expectedIds`: names that do not begin with each other give different identifiers
* `operationIds_expand_iff`: when the operations of an expanded service have different identifiers
-/

namespace ServiceSpec

open Document

/-! ## What comes last under a key -/

/-- What is found from the end of a list stands at an element whose key no later one has. -/
theorem lookup_reverse_map_eq_some_iff {α β γ : Type} [BEq α] [LawfulBEq α] [DecidableEq α]
    {key : γ → α} {value : γ → β} {l : List γ} {k : α} {v : β} :
    (l.map fun x => (key x, value x)).reverse.lookup k = some v ↔
      ∃ x ∈ l.pwFilter fun a b => key a ≠ key b, key x = k ∧ value x = v := by
  induction l generalizing v with
  | nil => simp
  | cons a rest ih =>
    have hnone : (∀ b ∈ rest.pwFilter fun a b => key a ≠ key b, k ≠ key b) →
        (rest.map fun x => (key x, value x)).reverse.lookup k = none := by
      intro h
      rw [Option.eq_none_iff_forall_not_mem]
      intro w hw
      obtain ⟨x, hx, hk, -⟩ := ih.mp hw
      exact h x hx hk.symm
    rw [List.map_cons, List.reverse_cons, List.lookup_append, Option.or_eq_some_iff, ih,
      lookup_cons]
    by_cases hlast : ∀ b ∈ rest.pwFilter fun a b => key a ≠ key b, key a ≠ key b
    · rw [List.pwFilter_cons_of_pos hlast, List.exists_mem_cons_iff]
      constructor
      · rintro (h | ⟨-, h⟩)
        · exact .inr h
        · split at h
          · exact .inl ⟨‹k = key a›.symm, Option.some.inj h⟩
          · cases h
      · rintro (⟨rfl, rfl⟩ | h)
        · exact .inr ⟨hnone hlast, if_pos rfl⟩
        · exact .inl h
    · rw [List.pwFilter_cons_of_neg hlast, or_iff_left]
      rintro ⟨h, hv⟩
      split at hv
      · rename_i hk
        push Not at hlast
        obtain ⟨b, hb, heq⟩ := hlast
        have hfound := (ih (v := value b)).mpr ⟨b, hb, heq.symm.trans hk.symm, rfl⟩
        rw [h] at hfound
        cases hfound
      · cases hv

/-! ## Operations and their endpoints -/

/-- The endpoints whose route no later endpoint has: those whose operations are in the document. -/
def Service.shownEndpoints (s : Service) : List (Resource × Endpoint) :=
  s.endpoints.pwFilter fun a b => a.1.route a.2 ≠ b.1.route b.2

/-- The identifiers of the operations of a document. -/
def Document.operationIds (doc : Document) : List String :=
  doc.operations.filterMap fun o => (o.2.find? "operationId").bind text?

namespace Service

variable {s e : Service} {doc : Document}

/-- The identifiers of all endpoints, in order. -/
def operationIds (s : Service) : List String :=
  s.endpoints.map fun re => re.2.operationId re.1

/-- Where all routes are different, every endpoint is shown. -/
theorem shownEndpoints_eq_self (h : s.routes.Nodup) : s.shownEndpoints = s.endpoints := by
  rw [routes_eq] at h
  exact List.pwFilter_eq_self.mpr (List.pairwise_map.mp h)

theorem nodup_routes_shownEndpoints (s : Service) :
    (s.shownEndpoints.map fun re => re.1.route re.2).Nodup :=
  List.pairwise_map.mpr (List.pairwise_pwFilter _)

/-- **The operations of a document are those of the endpoints shown.** -/
theorem operations_perm (s : Service) :
    s.openApiDocument.operations.Perm
      (s.shownEndpoints.map fun re => (re.1.route re.2, re.2.operation re.1)) := by
  rw [operations_openApiDocument]
  have hshown : ((s.shownEndpoints.map fun re => (re.1.route re.2, re.2.operation re.1)).map
      (·.1)).Nodup := by
    rw [List.map_map]
    exact s.nodup_routes_shownEndpoints
  -- on both sides each route stands once, so it is enough to compare what stands under a route
  rw [List.perm_ext_iff_of_nodup s.isPaths_paths.nodup_routes.of_map hshown.of_map]
  rintro ⟨route, operation⟩
  rw [s.isPaths_paths.mem_operationsIn, operationAt_paths, routedOperations,
    lookup_reverse_map_eq_some_iff, List.mem_map]
  simp only [Prod.mk.injEq, shownEndpoints]

theorem operationIds_perm (s : Service) :
    s.openApiDocument.operationIds.Perm (s.shownEndpoints.map fun re => re.2.operationId re.1) := by
  refine (s.operations_perm.filterMap _).trans (List.Perm.of_eq ?_)
  rw [List.filterMap_map, ← List.filterMap_eq_map]
  exact List.filterMap_congr fun re _ => rfl

end Service

/-! ## Identifiers of an expanded service -/

/-- The names of the endpoints that a resource has once it is expanded. -/
def Resource.endpointNames (r : Resource) : List String :=
  r.missingEndpoints.map (·.name) ++ r.endpoints.map (·.name)

/-- The identifiers of the endpoints that a resource has once it is expanded. -/
def Resource.expectedIds (r : Resource) : List String :=
  r.endpointNames.map fun n => Naming.camelCase n ++ r.name

theorem Resource.operationIds_completed (i : TypeIndex) (r : Resource) :
    (r.completed i).endpoints.map (·.operationId (r.completed i)) = r.expectedIds := by
  rw [endpoints_completed, expectedIds, endpointNames, List.map_append, List.map_append,
    List.map_map, List.map_map, List.map_map, List.map_map]
  refine congrArg (· ++ _) (List.map_congr_left fun k _ => ?_)
  exact congrArg (Naming.camelCase · ++ r.name) (k.name_build (r.completed i))

/-! ## Names that do not begin with each other -/

/-- The name of a standard endpoint in camel case. -/
def StandardEndpoint.verb : StandardEndpoint → String
  | create => "create"
  | get => "get"
  | list => "list"
  | update => "update"
  | delete => "delete"
  | search => "search"

theorem StandardEndpoint.camelCase_name (k : StandardEndpoint) :
    Naming.camelCase k.name = k.verb := by
  cases k <;> decide +kernel

/-- The names of standard endpoints do not begin with each other. -/
theorem StandardEndpoint.eq_of_verb_prefix {k k' : StandardEndpoint}
    (h : k.verb.toList <+: k'.verb.toList) : k = k' := by
  cases k <;> cases k' <;> first | rfl | exact absurd h (by decide)

/-- Of the first parts of one text, the shorter is the beginning of the other. -/
theorem prefix_or_prefix_of_append_eq {v w a b : String} (h : v ++ a = w ++ b) :
    v.toList <+: w.toList ∨ w.toList <+: v.toList := by
  have hl : v.toList ++ a.toList = w.toList ++ b.toList := by
    rw [← String.toList_append, ← String.toList_append, h]
  exact List.prefix_or_prefix_of_prefix (List.prefix_append _ a.toList)
    (hl ▸ List.prefix_append _ _)

namespace Service

variable {s e : Service} {doc : Document}

/-- The identifiers of the endpoints that the service has once it is expanded. -/
def expectedIds (s : Service) : List String :=
  s.resources.flatMap Resource.expectedIds

theorem operationIds_base (s : Service) : s.base.operationIds = s.expectedIds := by
  rw [operationIds, endpoints, List.map_flatMap, resources_base_eq, List.flatMap_map, expectedIds]
  refine congrArg List.flatten (List.map_congr_left fun r _ => ?_)
  rw [List.map_map]
  exact r.operationIds_completed _

/-- Endpoints of one resource have different names in camel case, and no name of an endpoint is in
camel case the beginning of another one. -/
structure IdsApart (s : Service) : Prop where
  within : ∀ r ∈ s.resources, (r.endpointNames.map Naming.camelCase).Nodup
  across : ∀ r ∈ s.resources, ∀ r' ∈ s.resources, ∀ n ∈ r.endpointNames, ∀ n' ∈ r'.endpointNames,
    (Naming.camelCase n).toList <+: (Naming.camelCase n').toList →
      Naming.camelCase n = Naming.camelCase n'

/-- **Names that do not begin with each other give different identifiers.** -/
theorem IdsApart.nodup_expectedIds (h : s.IdsApart) (hr : (s.resources.map (·.name)).Nodup) :
    s.expectedIds.Nodup := by
  rw [expectedIds, List.nodup_flatMap]
  refine ⟨fun r hmem => ?_, ?_⟩
  · have hids : r.expectedIds = (r.endpointNames.map Naming.camelCase).map (· ++ r.name) := by
      rw [List.map_map]
      rfl
    rw [hids]
    exact (h.within r hmem).map fun _ _ => (String.append_left_inj _).mp
  · refine (List.pairwise_map.mp hr).imp_of_mem fun {r r'} hmem hmem' hne => ?_
    -- an identifier of two resources would have the same first part, so the same second part
    intro id hid hid'
    obtain ⟨n, hn, rfl⟩ := List.mem_map.mp hid
    obtain ⟨n', hn', heq⟩ := List.mem_map.mp hid'
    have hfirst : Naming.camelCase n = Naming.camelCase n' := by
      rcases prefix_or_prefix_of_append_eq heq.symm with hp | hp
      · exact h.across r hmem r' hmem' n hn n' hn' hp
      · exact (h.across r' hmem' r hmem n' hn' n hn hp).symm
    rw [hfirst] at heq
    exact hne ((String.append_right_inj _).mp heq).symm

/-- Where all endpoints are standard ones, identifiers are apart. -/
theorem idsApart_of_standard (h : ∀ r ∈ s.resources, r.endpoints = []) : s.IdsApart := by
  have hnames : ∀ r ∈ s.resources, r.endpointNames = r.missingEndpoints.map (·.name) := by
    intro r hr
    rw [Resource.endpointNames, h r hr, List.map_nil, List.append_nil]
  refine ⟨fun r hr => ?_, fun r hr r' hr' n hn n' hn' hp => ?_⟩
  · have hall : (StandardEndpoint.all.map StandardEndpoint.verb).Nodup := by decide
    have hverbs : r.missingEndpoints.map (fun k => Naming.camelCase k.name) =
        r.missingEndpoints.map StandardEndpoint.verb :=
      List.map_congr_left fun k _ => k.camelCase_name
    rw [hnames r hr, List.map_map]
    exact hverbs ▸ hall.sublist (List.filter_sublist.map _)
  · rw [hnames r hr] at hn
    rw [hnames r' hr'] at hn'
    obtain ⟨k, -, rfl⟩ := List.mem_map.mp hn
    obtain ⟨k', -, rfl⟩ := List.mem_map.mp hn'
    rw [k.camelCase_name, k'.camelCase_name] at hp ⊢
    exact congrArg StandardEndpoint.verb (StandardEndpoint.eq_of_verb_prefix hp)

/-- **The identifiers of the operations of an expanded service.**  They are those of the endpoints
shown, so they are different if and only if no two of these have the same one.  Where no endpoint is
lost to another one with its route, these are the identifiers that the declared and the standard
endpoints of the service have, and they are different as long as no name of an endpoint is in camel
case the beginning of another one, in particular where all endpoints are standard ones. -/
theorem operationIds_expand_iff (h : s.expand = .ok e) (hd : e.openApi = .ok doc) :
    (doc.operationIds.Nodup ↔
      (e.shownEndpoints.map fun re => re.2.operationId re.1).Nodup) ∧
    (e.routes.Nodup → (doc.operationIds.Nodup ↔ s.expectedIds.Nodup)) ∧
    (s.expectedIds.Nodup → doc.operationIds.Nodup) ∧ (s.IdsApart → s.expectedIds.Nodup) ∧
    ((∀ r ∈ s.resources, r.endpoints = []) → s.IdsApart) := by
  obtain ⟨hs, -, rfl⟩ := expand_eq_ok_iff.mp h
  obtain rfl := eq_openApiDocument_of_openApi hd
  have hresources := (wellNamed_of_violations hs.valid).resources
  have hids : s.base.withFilters.operationIds = s.expectedIds := s.operationIds_base
  have hshown := s.base.withFilters.operationIds_perm.nodup_iff
  refine ⟨hshown, fun hn => ?_, fun hn => hshown.mpr ?_, fun ha => ha.nodup_expectedIds hresources,
    idsApart_of_standard⟩
  · rw [hshown, shownEndpoints_eq_self hn, ← hids]
    rfl
  · rw [← hids] at hn
    exact hn.sublist ((List.pwFilter_sublist _).map _)

theorem operationIds_expand_bookshop :
    bookshop.expand = .ok bookshop.base.withFilters ∧
      bookshop.base.withFilters.openApi = .ok bookshop.base.withFilters.openApiDocument ∧
      bookshop.base.withFilters.openApiDocument.operationIds.Nodup := by
  obtain ⟨-, -, hexpected, hapart, hstandard⟩ :=
    operationIds_expand_iff bookshop_expand bookshop_openApi
  refine ⟨bookshop_expand, bookshop_openApi, hexpected (hapart (hstandard fun r hr => ?_))⟩
  obtain rfl := List.mem_singleton.mp hr
  rfl

/-- A service with an endpoint whose name goes into that of another resource. -/
def community : Service where
  name := "Community"
  resources :=
    [{ name := "Group"
       endpoints :=
         [{ name := "CreateUser"
            method := .post
            path := "/users"
            response := .empty 204 }]
       skipAutoColumns := true },
     { name := "UserGroup"
       operations := [.create]
       skipAutoColumns := true }]

/-- The two operations of the document have one identifier. -/
theorem community_ids_repeated :
    community.violations = [] ∧ community.expand = .ok community.base.withFilters ∧
      community.base.withFilters.openApi = .ok community.base.withFilters.openApiDocument ∧
      community.base.withFilters.openApiDocument.operations.map (·.1) =
        [("/groups/users", "post"), ("/user-groups", "post")] ∧
      community.base.withFilters.openApiDocument.operationIds =
        ["createUserGroup", "createUserGroup"] := by
  have hs : community.Expandable := ⟨by decide +kernel, by decide +kernel, by decide +kernel⟩
  have he : community.expand = .ok community.base.withFilters :=
    expand_eq_ok_iff.mpr ⟨hs, by decide +kernel, rfl⟩
  exact ⟨hs.valid, he, openApi_eq_ok_iff.mpr (by decide +kernel), by decide +kernel,
    by decide +kernel⟩

end Service

end ServiceSpec
