import ServiceSpec.OpenApi
import ServiceSpec.Proofs.Additions
import ServiceSpec.Proofs.Documents
import ServiceSpec.Proofs.NameKinds
import Mathlib.Data.List.Dedup

/-!
# Routes

An endpoint is reached by a route: a path and a method.  The document of a service has one operation
for each route, so of endpoints with the same route it shows the last one, and the others are lost
without a word.  This is all that is lost: the operations of the document stand under the routes of
the endpoints, each route once.

Validation looks at the names of resources and endpoints, and not at routes.  The standard endpoints
of a resource have different routes.  Those of two resources meet where the names have the same
plural in kebab case, as `Category` and `Categories` do, and a declared endpoint has whatever path
it is given.

## Main definitions

* `Service.routes`: the routes of all endpoints
* `Document.operations`: the operations of a document, by their routes
* `Service.CollectionsApart`: collections that no path of another one leads into

## Main results

* `operationAt_paths`: under a route stands the operation of the last endpoint that has it
* `routes_base`: expansion gives a service the routes of its declared and its standard endpoints
* `CollectionsApart.nodup_routes_iff`: collections that are apart share no route
* `operations_expand_iff`: every endpoint has its operation if and only if all routes are different
-/

namespace ServiceSpec

/-- The route of an endpoint of a resource: its path and the key of its method. -/
def Resource.route (r : Resource) (e : Endpoint) : String × String :=
  (r.endpointPath e, e.method.key)

/-- The routes of the endpoints of a resource, in order. -/
def Resource.routes (r : Resource) : List (String × String) :=
  r.endpoints.map r.route

/-- The routes of all endpoints, in order. -/
def Service.routes (s : Service) : List (String × String) :=
  s.resources.flatMap Resource.routes

/-- The operations of all endpoints, each with its route. -/
def Service.routedOperations (s : Service) : List ((String × String) × Document) :=
  s.endpoints.map fun re => (re.1.route re.2, re.2.operation re.1)

theorem Service.routes_eq (s : Service) : s.routes = s.endpoints.map fun re => re.1.route re.2 := by
  simp only [routes, endpoints, List.map_flatMap, List.map_map]
  rfl

theorem Service.map_routedOperations (s : Service) : s.routedOperations.map (·.1) = s.routes := by
  rw [routes_eq, routedOperations, List.map_map]
  rfl

/-! ## Paths of a document -/

namespace Document

/-- The operations of path items, each with its route. -/
def operationsIn (paths : List (String × Document)) : List ((String × String) × Document) :=
  paths.flatMap fun item => item.2.entries.map fun o => ((item.1, o.1), o.2)

/-- The operations of a document, each with its route. -/
def operations (doc : Document) : List ((String × String) × Document) :=
  operationsIn ((doc.find? "paths").elim [] entries)

/-- The operation of a route. -/
def operationAt (paths : List (String × Document)) (route : String × String) : Option Document :=
  (paths.lookup route.1).bind (·.find? route.2)

/-- Path items of a document: each path stands once, and so does each method of a path. -/
structure IsPaths (paths : List (String × Document)) : Prop where
  nodup : (paths.map (·.1)).Nodup
  items : ∀ item ∈ paths, (item.2.entries.map (·.1)).Nodup

variable {paths : List (String × Document)} {path method : String} {operation : Document}

theorem addOperation_eq (paths : List (String × Document)) (path method : String)
    (operation : Document) :
    addOperation paths path method operation =
      set path (.object (set method operation ((paths.lookup path).elim [] entries))) paths := by
  rw [addOperation]
  split
  · rename_i item h
    rw [h]
    rfl
  · rename_i h
    have hnone : (paths.lookup path).elim [] entries = [] := by
      cases hd : paths.lookup path with
      | none => rfl
      | some d =>
        cases d with
        | object item => exact absurd hd (h item)
        | _ => rfl
    rw [hnone]
    rfl

theorem operationAt_eq (paths : List (String × Document)) (route : String × String) :
    operationAt paths route = ((paths.lookup route.1).elim [] entries).lookup route.2 := by
  rw [operationAt]
  cases paths.lookup route.1 with
  | none => rfl
  | some d => exact d.find?_eq_lookup route.2

/-- Adding an operation changes what stands under its route, and nothing else. -/
theorem operationAt_addOperation (paths : List (String × Document)) (route : String × String)
    (operation : Document) (other : String × String) :
    operationAt (addOperation paths route.1 route.2 operation) other =
      if other = route then some operation else operationAt paths other := by
  obtain ⟨path, method⟩ := route
  obtain ⟨p, m⟩ := other
  rw [addOperation_eq, operationAt_eq, operationAt_eq, lookup_set]
  by_cases hp : p = path
  · subst hp
    rw [if_pos rfl]
    change (set method operation _).lookup m = _
    rw [lookup_set]
    simp
  · rw [if_neg hp, if_neg fun h => hp (congrArg Prod.fst h)]

theorem IsPaths.addOperation (h : IsPaths paths) (path method : String) (operation : Document) :
    IsPaths (addOperation paths path method operation) := by
  rw [addOperation_eq]
  refine ⟨nodup_keys_set h.nodup, fun item hitem => ?_⟩
  rcases mem_of_mem_set hitem with rfl | hitem
  · apply nodup_keys_set
    cases hd : paths.lookup path with
    | none => exact List.nodup_nil
    | some d => exact h.items (path, d) ((lookup_eq_some_iff h.nodup).mp hd)
  · exact h.items item hitem

/-- The operations of path items are found under their routes. -/
theorem IsPaths.mem_operationsIn (h : IsPaths paths) {route : String × String} :
    (route, operation) ∈ operationsIn paths ↔ operationAt paths route = some operation := by
  obtain ⟨p, m⟩ := route
  simp only [operationsIn, operationAt, List.mem_flatMap, List.mem_map, Option.bind_eq_some_iff,
    find?_eq_lookup]
  constructor
  · rintro ⟨⟨q, d⟩, hq, o, ho, heq⟩
    cases heq
    exact ⟨d, (lookup_eq_some_iff h.nodup).mpr hq, (lookup_eq_some_iff (h.items _ hq)).mpr ho⟩
  · rintro ⟨d, hd, hm⟩
    have hq := (lookup_eq_some_iff h.nodup).mp hd
    exact ⟨(p, d), hq, (m, operation), (lookup_eq_some_iff (h.items _ hq)).mp hm, rfl⟩

/-- No route stands twice. -/
theorem IsPaths.nodup_routes (h : IsPaths paths) : ((operationsIn paths).map (·.1)).Nodup := by
  rw [operationsIn, List.map_flatMap, List.nodup_flatMap]
  constructor
  · intro item hitem
    have hpairs := (h.items item hitem).map fun _ _ (heq : (item.1, _) = (item.1, _)) =>
      (Prod.mk.inj heq).2
    rwa [List.map_map] at hpairs ⊢
  · refine (List.pairwise_map.mp h.nodup).imp fun {a b} hab => ?_
    intro route ha hb
    simp only [List.mem_map] at ha hb
    obtain ⟨_, ⟨o, -, rfl⟩, rfl⟩ := ha
    obtain ⟨_, ⟨o', -, rfl⟩, heq⟩ := hb
    exact hab (congrArg Prod.fst heq).symm

end Document

open Document

namespace Service

variable {s e : Service}

theorem paths_eq (s : Service) :
    s.paths = s.routedOperations.foldl (fun paths o => addOperation paths o.1.1 o.1.2 o.2) [] := by
  rw [paths, routedOperations, List.foldl_map]
  rfl

theorem isPaths_paths (s : Service) : IsPaths s.paths := by
  rw [paths_eq]
  -- on the endpoints from the last one on, as each changes what those before it left
  induction s.routedOperations using List.reverseRecOn with
  | nil => exact ⟨List.nodup_nil, fun _ h => nomatch h⟩
  | append_singleton os o ih =>
    rw [List.foldl_append]
    exact ih.addOperation o.1.1 o.1.2 o.2

/-- **Under a route stands the operation of the last endpoint that has it.** -/
theorem operationAt_paths (s : Service) (route : String × String) :
    operationAt s.paths route = s.routedOperations.reverse.lookup route := by
  rw [paths_eq]
  induction s.routedOperations using List.reverseRecOn with
  | nil => rfl
  | append_singleton os o ih =>
    rw [List.foldl_append, List.reverse_append, List.reverse_singleton, List.singleton_append,
      lookup_cons, ← ih]
    exact operationAt_addOperation _ o.1 o.2 route

/-- The routes of the document are those of the endpoints, each once. -/
theorem routes_paths_perm (s : Service) :
    ((operationsIn s.paths).map (·.1)).Perm s.routes.dedup := by
  rw [List.perm_ext_iff_of_nodup s.isPaths_paths.nodup_routes (List.nodup_dedup _)]
  intro route
  have hlookup : route ∈ (operationsIn s.paths).map (·.1) ↔
      (s.routedOperations.reverse.lookup route).isSome := by
    simp [← operationAt_paths, Option.isSome_iff_exists, ← s.isPaths_paths.mem_operationsIn]
  rw [hlookup, List.mem_dedup, ← map_routedOperations, List.lookup_isSome_iff]
  simp only [List.mem_reverse, beq_iff_eq, List.mem_map]
  exact exists_congr fun o => and_congr_right' eq_comm

/-! ## Operations of a document -/

theorem find?_paths (s : Service) : s.openApiDocument.find? "paths" = some (.object s.paths) := by
  rw [find?_eq_lookup, openApiDocument]
  cases s.servers.isEmpty <;> rfl

theorem operations_openApiDocument (s : Service) :
    s.openApiDocument.operations = operationsIn s.paths := by
  rw [operations, find?_paths]
  rfl

theorem at?_paths (s : Service) (path method : String) :
    s.openApiDocument.at? ["paths", path, method] = operationAt s.paths (path, method) := by
  rw [at?_cons, find?_paths]
  change (s.paths.lookup path).bind (·.at? [method]) = _
  rw [operationAt]
  cases s.paths.lookup path with
  | none => rfl
  | some d =>
    change (d.find? method).bind some = d.find? method
    cases d.find? method <;> rfl

/-- Every endpoint has its operation, and there are no fewer operations than endpoints, if and only
if all routes are different. -/
theorem operations_complete_iff (s : Service) :
    ((∀ re ∈ s.endpoints,
        operationAt s.paths (re.1.route re.2) = some (re.2.operation re.1)) ∧
      (operationsIn s.paths).length = s.endpoints.length) ↔ s.routes.Nodup := by
  have hlength : (operationsIn s.paths).length = s.routes.dedup.length := by
    rw [← List.length_map (·.1), s.routes_paths_perm.length_eq]
  have hendpoints : s.endpoints.length = s.routes.length := by
    rw [routes_eq, List.length_map]
  rw [hlength, hendpoints]
  constructor
  · rintro ⟨-, heq⟩
    rw [← List.dedup_eq_self]
    exact (List.dedup_sublist _).eq_of_length heq
  · -- with different routes the last endpoint that has a route is the only one
    intro hn
    refine ⟨fun re hre => ?_, by rw [List.dedup_eq_self.mpr hn]⟩
    have hkeys : (s.routedOperations.reverse.map (·.1)).Nodup := by
      rw [List.map_reverse, map_routedOperations]
      exact List.nodup_reverse.mpr hn
    rw [operationAt_paths, lookup_eq_some_iff hkeys, List.mem_reverse]
    exact List.mem_map_of_mem hre

end Service

/-! ## Routes of standard endpoints -/

/-- The path of a standard endpoint within its collection, and the key of its method. -/
def StandardEndpoint.place : StandardEndpoint → String × String
  | create => ("", "post")
  | get => ("/\x7bid\x7d", "get")
  | list => ("", "get")
  | update => ("/\x7bid\x7d", "patch")
  | delete => ("/\x7bid\x7d", "delete")
  | search => ("/_search", "post")

theorem Resource.itemPath_eq (r : Resource) : r.itemPath = "/\x7bid\x7d" := by
  have htag : r.idParam.tag = "id" := by
    change Naming.camelCase Standard.idField = "id"
    decide +kernel
  rw [itemPath, htag]
  decide +kernel

theorem StandardEndpoint.route_build (r : Resource) (k : StandardEndpoint) :
    r.route (k.build r) = (r.collectionPath ++ k.place.1, k.place.2) := by
  have hpath : (k.build r).path = k.place.1 := by
    cases k with
    | get | update | delete => exact r.itemPath_eq
    | _ => rfl
  have hmethod : (k.build r).method.key = k.place.2 := by cases k <;> rfl
  rw [Resource.route, Resource.endpointPath, hpath, hmethod]

theorem StandardEndpoint.place_injective {k k' : StandardEndpoint} (h : k.place = k'.place) :
    k = k' := by
  cases k <;> cases k' <;> first | rfl | exact absurd h (by decide)

namespace Resource

theorem routes_withStandardEndpoints (r : Resource) :
    r.withStandardEndpoints.routes =
      (r.missingEndpoints.map fun k => (r.collectionPath ++ k.place.1, k.place.2)) ++ r.routes := by
  have hmissing : r.standardEndpoints.map r.route =
      r.missingEndpoints.map fun k => (r.collectionPath ++ k.place.1, k.place.2) := by
    rw [standardEndpoints, List.map_map]
    exact List.map_congr_left fun k _ => k.route_build r
  rw [routes, withStandardEndpoints, List.map_map, List.map_append]
  exact congrArg (· ++ r.routes) hmissing

/-- Types and columns make no difference to the routes. -/
theorem routes_complete (r : Resource) (g : Location → Field → Field) :
    (r.mapLocatedFields g).withAutoColumns.withStandardEndpoints.routes =
      r.withStandardEndpoints.routes := by
  have hmissing : (r.mapLocatedFields g).withAutoColumns.missingEndpoints = r.missingEndpoints :=
    missingEndpoints_mapLocatedFields g r
  have hroutes : (r.mapLocatedFields g).withAutoColumns.routes = r.routes := by
    change (r.endpoints.map _).map _ = _
    rw [List.map_map]
    rfl
  rw [routes_withStandardEndpoints, routes_withStandardEndpoints, hmissing, hroutes]
  rfl

/-- The standard endpoints of a resource have different routes. -/
theorem nodup_routes_of_standard {r : Resource} (h : r.endpoints = []) :
    r.withStandardEndpoints.routes.Nodup := by
  have hnone : r.routes = [] := by rw [routes, h, List.map_nil]
  rw [routes_withStandardEndpoints, hnone, List.append_nil]
  have hmissing : r.missingEndpoints.Nodup := by
    have hall : StandardEndpoint.all.Nodup := by decide
    exact hall.filter _
  refine hmissing.map fun k k' heq => StandardEndpoint.place_injective ?_
  obtain ⟨hpath, hmethod⟩ := Prod.mk.inj heq
  exact Prod.ext ((String.append_right_inj _).mp hpath) hmethod

end Resource

/-- **Expansion gives a service the routes of its declared and its standard endpoints.** -/
theorem Service.routes_base (s : Service) : s.base.routes = s.withStandardEndpoints.routes := by
  rw [routes, resources_base, List.flatMap_map, routes, withStandardEndpoints, List.flatMap_map]
  change (List.flatMap _ (List.map _ s.resources)) = _
  rw [List.flatMap_map]
  exact congrArg (List.flatMap · s.resources) (funext fun r => r.routes_complete _)

/-! ## Collections -/

/-- The part of the paths of a resource that names its collection. -/
def Resource.segment (r : Resource) : String :=
  Naming.kebabCase (Naming.plural r.name)

/-- A path within a collection: the empty one, or one that starts with a slash. -/
def IsRelativePath (path : String) : Prop :=
  path = "" ∨ path.toList.head? = some '/'

instance (path : String) : Decidable (IsRelativePath path) :=
  inferInstanceAs (Decidable (path = "" ∨ path.toList.head? = some '/'))

theorem StandardEndpoint.isRelativePath_place (k : StandardEndpoint) :
    IsRelativePath k.place.1 := by
  cases k <;> decide

/-- A segment without slashes is what a path has before the next slash. -/
theorem takeWhile_append_of_isRelativePath {segment : List Char} {path : String}
    (hs : '/' ∉ segment) (hp : IsRelativePath path) :
    (segment ++ path.toList).takeWhile (· ≠ '/') = segment := by
  have hend : path.toList.takeWhile (· ≠ '/') = [] := by
    rcases hp with rfl | hp
    · rfl
    · cases hcs : path.toList with
      | nil => rfl
      | cons c cs =>
        rw [hcs] at hp
        obtain rfl := Option.some.inj hp
        rfl
  rw [List.takeWhile_append_of_pos, hend, List.append_nil]
  intro c hc
  exact decide_eq_true fun h => hs (h ▸ hc)

/-- Paths of different collections are different. -/
theorem Resource.segment_eq_of_path_eq {r r' : Resource} {p p' : String}
    (hr : '/' ∉ r.segment.toList) (hr' : '/' ∉ r'.segment.toList) (hp : IsRelativePath p)
    (hp' : IsRelativePath p') (h : r.collectionPath ++ p = r'.collectionPath ++ p') :
    r.segment = r'.segment := by
  have hl : r.segment.toList ++ p.toList = r'.segment.toList ++ p'.toList := by
    have hall := congrArg String.toList h
    simp only [collectionPath, String.toList_append, List.append_assoc] at hall
    exact List.append_cancel_left hall
  have hsegments := congrArg (List.takeWhile (· ≠ '/')) hl
  rw [takeWhile_append_of_isRelativePath hr hp, takeWhile_append_of_isRelativePath hr' hp']
    at hsegments
  exact String.toList_injective hsegments

/-- Every route of a resource is a path within its collection. -/
theorem Resource.exists_path_of_mem_routes {r : Resource}
    (h : ∀ e ∈ r.endpoints, IsRelativePath e.path) {route : String × String}
    (hroute : route ∈ r.withStandardEndpoints.routes) :
    ∃ p, IsRelativePath p ∧ route.1 = r.collectionPath ++ p := by
  rw [routes_withStandardEndpoints] at hroute
  rcases List.mem_append.mp hroute with hmem | hmem
  · obtain ⟨k, -, rfl⟩ := List.mem_map.mp hmem
    exact ⟨k.place.1, k.isRelativePath_place, rfl⟩
  · obtain ⟨e, he, rfl⟩ := List.mem_map.mp hmem
    exact ⟨e.path, h e he, rfl⟩

namespace Service

variable {s e : Service} {doc : Document}

/-- Collections with different segments, and declared paths within them. -/
structure CollectionsApart (s : Service) : Prop where
  segments : (s.resources.map Resource.segment).Nodup
  plain : ∀ r ∈ s.resources, '/' ∉ r.segment.toList
  relative : ∀ r ∈ s.resources, ∀ e ∈ r.endpoints, IsRelativePath e.path

/-- **Collections that are apart share no route**, so that only the routes of each resource have to
be different. -/
theorem CollectionsApart.nodup_routes_iff (h : s.CollectionsApart) :
    s.withStandardEndpoints.routes.Nodup ↔
      ∀ r ∈ s.resources, r.withStandardEndpoints.routes.Nodup := by
  rw [routes, withStandardEndpoints, List.flatMap_map, List.nodup_flatMap]
  refine and_iff_left ?_
  refine (List.pairwise_map.mp h.segments).imp_of_mem fun {r r'} hr hr' hne => ?_
  -- a route of two resources would be a path within both collections
  intro route hroute hroute'
  obtain ⟨p, hp, heq⟩ := Resource.exists_path_of_mem_routes (h.relative r hr) hroute
  obtain ⟨p', hp', heq'⟩ := Resource.exists_path_of_mem_routes (h.relative r' hr') hroute'
  exact hne (Resource.segment_eq_of_path_eq (h.plain r hr) (h.plain r' hr') hp hp'
    (heq.symm.trans heq'))

/-- **The operations of the document of an expanded service.**  Under a path and a method stands the
operation of the last endpoint with that route, and there is an operation for each route.  So every
endpoint has its own operation if and only if all routes are different.  These are the routes of
the declared endpoints and of the standard ones, and where the collections are apart they are
different if those of each resource are. -/
theorem operations_expand_iff (h : s.expand = .ok e) (hd : e.openApi = .ok doc) :
    (∀ path method, doc.at? ["paths", path, method] =
      e.routedOperations.reverse.lookup (path, method)) ∧
    (doc.operations.map (·.1)).Perm e.routes.dedup ∧
    (((∀ re ∈ e.endpoints, doc.at? ["paths", re.1.endpointPath re.2, re.2.method.key] =
        some (re.2.operation re.1)) ∧ doc.operations.length = e.endpoints.length) ↔
      e.routes.Nodup) ∧
    e.routes = s.withStandardEndpoints.routes ∧
    (s.CollectionsApart →
      (e.routes.Nodup ↔ ∀ r ∈ s.resources, r.withStandardEndpoints.routes.Nodup)) := by
  obtain ⟨-, -, rfl⟩ := expand_eq_ok_iff.mp h
  obtain rfl := eq_openApiDocument_of_openApi hd
  have hroutes : s.base.withFilters.routes = s.withStandardEndpoints.routes := s.routes_base
  rw [operations_openApiDocument]
  simp only [at?_paths]
  exact ⟨fun path method => operationAt_paths _ (path, method), routes_paths_perm _,
    operations_complete_iff _, hroutes, fun hc => hroutes ▸ hc.nodup_routes_iff⟩

theorem operations_expand_bookshop :
    bookshop.expand = .ok bookshop.base.withFilters ∧
      bookshop.base.withFilters.openApi = .ok bookshop.base.withFilters.openApiDocument ∧
      bookshop.base.withFilters.openApiDocument.operations.length =
        bookshop.base.withFilters.endpoints.length := by
  have hc : bookshop.CollectionsApart := ⟨by decide +kernel, by decide +kernel, by decide⟩
  obtain ⟨-, -, hiff, -, hroutes⟩ := operations_expand_iff bookshop_expand bookshop_openApi
  refine ⟨bookshop_expand, bookshop_openApi, (hiff.mpr ((hroutes hc).mpr fun r hr => ?_)).2⟩
  obtain rfl := List.mem_singleton.mp hr
  exact Resource.nodup_routes_of_standard rfl

/-- A service with two resources whose names have the same plural. -/
def catalog : Service where
  name := "Catalog"
  resources :=
    [{ name := "Category"
       operations := [.delete]
       skipAutoColumns := true },
     { name := "Categories"
       operations := [.delete]
       skipAutoColumns := true }]

/-- The document has one operation for the two endpoints. -/
theorem catalog_operation_lost :
    catalog.violations = [] ∧ catalog.expand = .ok catalog.base.withFilters ∧
      catalog.base.withFilters.openApi = .ok catalog.base.withFilters.openApiDocument ∧
      catalog.base.withFilters.endpoints.length = 2 ∧
      catalog.base.withFilters.openApiDocument.operations.map (·.1) =
        [("/categories/\x7bid\x7d", "delete")] := by
  have hs : catalog.Expandable := ⟨by decide +kernel, by decide +kernel, by decide +kernel⟩
  have he : catalog.expand = .ok catalog.base.withFilters :=
    expand_eq_ok_iff.mpr ⟨hs, by decide +kernel, rfl⟩
  exact ⟨hs.valid, he, openApi_eq_ok_iff.mpr (by decide +kernel), by decide +kernel,
    by decide +kernel⟩

end Service

end ServiceSpec
