import ServiceSpec.Expansion.RequestErrors
import Mathlib.Data.List.Basic
import Mathlib.Data.List.Count

/-!
# The run of the error object builder

Error objects are built for known objects and for endpoints.  Both are sources: a source has a name
and a body, and it takes its name, follows the known objects of its body, then emits its shape.  A
run is described by the sources it serves.  They have distinct names that were free before, and when
the run is over the error name of every known object in their bodies is taken.

## Main definitions

* `ErrorSource`: what an error object is built for
* `RequestErrors.Extends`: the run from one state to another, by the sources served
* `RequestErrors.pending`: the number of known objects whose error name is free

## Main results

* `visit_extends`: a visit that may go as deep as objects are pending takes the name of its object
* `visitEndpoint_extends`: an endpoint with a body is served if and only if its name is free
* `ofEndpoints_extends`: the run over a sequence of endpoints
* `ofEndpoints_turn`: what stands when the turn of an endpoint is over
* `ofEndpoints_closed`: error objects refer to field errors and to error objects that are there
-/

namespace ServiceSpec

theorem mem_of_nestedObject? {known : List Object} {f : Field} {o : Object}
    (h : nestedObject? known f = some o) : o ∈ known := by
  obtain ⟨n, -, hn⟩ := Option.bind_eq_some_iff.mp h
  exact List.mem_of_find?_eq_some hn

/-- What an error object is built for: a known object, or the body of an endpoint. -/
inductive ErrorSource where
  | object (o : Object)
  | endpoint (r : Resource) (e : Endpoint)

namespace ErrorSource

/-- The text that the name of the error object is made of. -/
def subject : ErrorSource → String
  | object o => o.name
  | endpoint r e => r.name ++ e.name

/-- The name of the error object. -/
def name (src : ErrorSource) : String :=
  Standard.requestErrorName src.subject

/-- The fields whose errors are reported. -/
def body : ErrorSource → List Field
  | object o => o.fields
  | endpoint _ e => e.request.bodyParams

/-- The known objects that the body refers to. -/
def nested (known : List Object) (src : ErrorSource) : List Object :=
  src.body.filterMap (nestedObject? known)

/-- The error object. -/
def shape (known : List Object) : ErrorSource → Object
  | object o => o.errorShape known
  | endpoint r e => e.errorShape known r

@[simp] theorem name_shape (known : List Object) (src : ErrorSource) :
    (src.shape known).name = src.name := by
  cases src <;> rfl

@[simp] theorem fields_shape (known : List Object) (src : ErrorSource) :
    (src.shape known).fields = src.body.map (Field.errorShape known) := by
  cases src <;> rfl

@[simp] theorem names_shapes (known : List Object) (srcs : List ErrorSource) :
    (srcs.map (·.shape known)).map (·.name) = srcs.map (·.name) := by
  simp

theorem nested_subset (known : List Object) (src : ErrorSource) :
    ∀ o ∈ src.nested known, o ∈ known := by
  intro o ho
  obtain ⟨f, -, hf⟩ := List.mem_filterMap.mp ho
  exact mem_of_nestedObject? hf

/-- Whether the source is one of the known objects. -/
def IsKnown (known : List Object) (src : ErrorSource) : Prop :=
  ∃ o ∈ known, src = object o

end ErrorSource

namespace RequestErrors

variable {known : List Object} {p q r : RequestErrors} {served later : List ErrorSource}

@[simp] theorem reserved_reserve (p : RequestErrors) (n : String) :
    (p.reserve n).reserved = n :: p.reserved := rfl

@[simp] theorem emitted_reserve (p : RequestErrors) (n : String) :
    (p.reserve n).emitted = p.emitted := rfl

@[simp] theorem reserved_emit (p : RequestErrors) (o : Object) :
    (p.emit o).reserved = p.reserved := rfl

@[simp] theorem emitted_emit (p : RequestErrors) (o : Object) :
    (p.emit o).emitted = p.emitted ++ [o] := rfl

/-! ## Runs -/

/-- A run from `p` to `q` that serves the given sources, in the order of their error objects. -/
structure Extends (known : List Object) (p q : RequestErrors) (served : List ErrorSource) :
    Prop where
  emitted : q.emitted = p.emitted ++ served.map (·.shape known)
  mem_reserved : ∀ n, n ∈ q.reserved ↔ n ∈ p.reserved ∨ n ∈ served.map (·.name)
  fresh : ∀ n ∈ served.map (·.name), n ∉ p.reserved
  nodup : (served.map (·.name)).Nodup
  nested : ∀ src ∈ served, ∀ o ∈ src.nested known, Standard.requestErrorName o.name ∈ q.reserved

namespace Extends

theorem refl (known : List Object) (p : RequestErrors) : Extends known p p [] where
  emitted := by simp
  mem_reserved := by simp
  fresh := by simp
  nodup := List.nodup_nil
  nested := by simp

theorem mono (h : Extends known p q served) {n : String} (hn : n ∈ p.reserved) :
    n ∈ q.reserved :=
  (h.mem_reserved n).mpr (.inl hn)

theorem trans (h : Extends known p q served) (h' : Extends known q r later) :
    Extends known p r (served ++ later) where
  emitted := by rw [h'.emitted, h.emitted, List.map_append, List.append_assoc]
  mem_reserved n := by
    rw [h'.mem_reserved, h.mem_reserved, List.map_append, List.mem_append, or_assoc]
  fresh n hn := by
    rw [List.map_append, List.mem_append] at hn
    rcases hn with hn | hn
    · exact h.fresh n hn
    · exact fun hp => h'.fresh n hn (h.mono hp)
  nodup := by
    -- the second run serves names that are free once the first has taken its own
    rw [List.map_append, List.nodup_append]
    refine ⟨h.nodup, h'.nodup, ?_⟩
    rintro a ha _ hb rfl
    exact h'.fresh a hb ((h.mem_reserved a).mpr (.inr ha))
  nested src hsrc o ho := by
    rcases List.mem_append.mp hsrc with hsrc | hsrc
    · exact h'.mono (h.nested src hsrc o ho)
    · exact h'.nested src hsrc o ho

/-- A source is served after a run that began with its name taken and took those it refers to. -/
theorem serve {src : ErrorSource} (hfree : src.name ∉ p.reserved)
    (h : Extends known (p.reserve src.name) q served)
    (hn : ∀ o ∈ src.nested known, Standard.requestErrorName o.name ∈ q.reserved) :
    Extends known p (q.emit (src.shape known)) (served ++ [src]) where
  emitted := by simp [h.emitted]
  mem_reserved n := by
    simp only [reserved_emit, h.mem_reserved, reserved_reserve, List.mem_cons, List.map_append,
      List.map_cons, List.map_nil, List.mem_append, List.not_mem_nil, or_false]
    tauto
  fresh n hn := by
    rw [List.map_append, List.mem_append] at hn
    rcases hn with hn | hn
    · exact fun hp => h.fresh n hn (List.mem_cons_of_mem _ hp)
    · obtain rfl : n = src.name := by simpa using hn
      exact hfree
  nodup := by
    rw [List.map_append, List.nodup_append]
    refine ⟨h.nodup, by simp, ?_⟩
    rintro a ha _ hb rfl
    obtain rfl : a = src.name := by simpa using hb
    exact h.fresh _ ha (List.mem_cons_self ..)
  nested x hx o ho := by
    rcases List.mem_append.mp hx with hx | hx
    · exact h.nested x hx o ho
    · obtain rfl : x = src := by simpa using hx
      exact hn o ho

end Extends

/-! ## Depth -/

/-- The number of known objects whose error name is free. -/
def pending (known : List Object) (p : RequestErrors) : Nat :=
  known.countP fun o => !p.reserved.contains (Standard.requestErrorName o.name)

theorem pending_le_length (known : List Object) (p : RequestErrors) :
    pending known p ≤ known.length :=
  List.countP_le_length

theorem pending_le (h : ∀ n ∈ p.reserved, n ∈ q.reserved) :
    pending known q ≤ pending known p := by
  apply List.countP_mono_left
  intro o _ ho
  simp only [Bool.not_eq_true', List.contains_eq_mem, decide_eq_false_iff_not] at ho ⊢
  exact fun hp => ho (h _ hp)

/-- Taking the free error name of a known object leaves fewer of them pending. -/
theorem pending_reserve_lt {o : Object} (ho : o ∈ known)
    (hfree : Standard.requestErrorName o.name ∉ p.reserved) :
    pending known (p.reserve (Standard.requestErrorName o.name)) < pending known p := by
  -- the object itself is no longer pending, and no other becomes so
  obtain ⟨pre, post, rfl⟩ := List.append_of_mem ho
  have hle : ∀ os, pending os (p.reserve (Standard.requestErrorName o.name)) ≤ pending os p :=
    fun os => pending_le fun n hn => List.mem_cons_of_mem _ hn
  have hpre := hle pre
  have hpost := hle post
  simp only [pending, reserved_reserve, List.countP_append, List.countP_cons] at hpre hpost ⊢
  simp only [List.contains_eq_mem, List.mem_cons, true_or, decide_true, Bool.not_true, hfree,
    decide_false, Bool.not_false, if_true, Bool.false_eq_true, if_false]
  simp only [List.contains_eq_mem, List.mem_cons] at hpre hpost
  omega

theorem reserved_of_pending_eq_zero (h : pending known p = 0) {o : Object} (ho : o ∈ known) :
    Standard.requestErrorName o.name ∈ p.reserved := by
  simpa using List.countP_eq_zero.mp h o ho

/-! ## Visits -/

/-- Serves a source, unless its name is taken, after those it refers to. -/
def take (known : List Object) (depth : Nat) (p : RequestErrors) (src : ErrorSource) :
    RequestErrors :=
  if p.reserved.contains src.name then p
  else ((src.nested known).foldl (visit known depth) (p.reserve src.name)).emit (src.shape known)

theorem visit_succ (known : List Object) (depth : Nat) (p : RequestErrors) (o : Object) :
    visit known (depth + 1) p o = take known depth p (.object o) := rfl

theorem visitEndpoint_eq (known : List Object) (p : RequestErrors) (r : Resource) (e : Endpoint) :
    visitEndpoint known p (r, e) =
      if e.hasBody then take known known.length p (.endpoint r e) else p := by
  cases hb : e.hasBody
  · simp [visitEndpoint, hb]
  · simp only [visitEndpoint, hb, Bool.not_true, Bool.false_or, if_true]
    rfl

theorem take_of_mem (known : List Object) (depth : Nat) (src : ErrorSource)
    (h : src.name ∈ p.reserved) : take known depth p src = p := by
  rw [take, if_pos (List.contains_iff_mem.mpr h)]

theorem take_of_notMem (known : List Object) (depth : Nat) (src : ErrorSource)
    (h : src.name ∉ p.reserved) :
    take known depth p src =
      ((src.nested known).foldl (visit known depth) (p.reserve src.name)).emit
        (src.shape known) := by
  rw [take, if_neg (by simpa using h)]

/-- What a visit of a known object does: it serves known objects, and takes the error name of its
own. -/
def Visits (known : List Object) (depth : Nat) : Prop :=
  ∀ (p : RequestErrors) (o : Object), o ∈ known → pending known p ≤ depth →
    ∃ served, Extends known p (visit known depth p o) served ∧
      (∀ src ∈ served, src.IsKnown known) ∧
      Standard.requestErrorName o.name ∈ (visit known depth p o).reserved

/-- The visits of several known objects, one after the other. -/
theorem Visits.foldl {depth : Nat} (hv : Visits known depth) {os : List Object}
    (hos : ∀ o ∈ os, o ∈ known) (p : RequestErrors) (hp : pending known p ≤ depth) :
    ∃ served, Extends known p (os.foldl (visit known depth) p) served ∧
      (∀ src ∈ served, src.IsKnown known) ∧
      ∀ o ∈ os, Standard.requestErrorName o.name ∈ (os.foldl (visit known depth) p).reserved := by
  induction os generalizing p with
  | nil => exact ⟨[], Extends.refl known p, by simp, by simp⟩
  | cons o rest ih =>
    obtain ⟨xs, hx, hxk, hxo⟩ := hv p o (hos o (List.mem_cons_self ..)) hp
    obtain ⟨ys, hy, hyk, hyo⟩ := ih (fun a ha => hos a (List.mem_cons_of_mem _ ha))
      (visit known depth p o) (Nat.le_trans (pending_le fun n hn => hx.mono hn) hp)
    refine ⟨xs ++ ys, hx.trans hy, fun src hsrc => ?_, fun a ha => ?_⟩
    · exact (List.mem_append.mp hsrc).elim (hxk src) (hyk src)
    · rcases List.mem_cons.mp ha with rfl | ha
      · exact hy.mono hxo
      · exact hyo a ha

/-- Serving a source whose name is free: the known objects of its body come first. -/
theorem Visits.take {depth : Nat} (hv : Visits known depth) (src : ErrorSource)
    (hfree : src.name ∉ p.reserved) (hp : pending known (p.reserve src.name) ≤ depth) :
    ∃ served, Extends known p (take known depth p src) (served ++ [src]) ∧
      ∀ x ∈ served, x.IsKnown known := by
  obtain ⟨served, h, hk, ho⟩ := hv.foldl (src.nested_subset known) (p.reserve src.name) hp
  rw [take_of_notMem known depth src hfree]
  exact ⟨served, h.serve hfree ho, hk⟩

/-- **A visit that may go as deep as objects are pending takes the name of its object.** -/
theorem visit_extends (known : List Object) (depth : Nat) : Visits known depth := by
  -- a visit takes the name of a pending object before it goes one level deeper
  induction depth with
  | zero =>
    -- nothing is pending, so the name is taken and there is nothing to do
    intro p o ho hp
    have ht := reserved_of_pending_eq_zero (Nat.le_zero.mp hp) ho
    exact ⟨[], Extends.refl known p, by simp, ht⟩
  | succ depth ih =>
    intro p o ho hp
    rw [visit_succ]
    by_cases hfree : Standard.requestErrorName o.name ∈ p.reserved
    · rw [take_of_mem known depth (.object o) hfree]
      exact ⟨[], Extends.refl known p, by simp, hfree⟩
    · have hlt : pending known (p.reserve (Standard.requestErrorName o.name)) ≤ depth :=
        Nat.le_of_lt_succ (Nat.lt_of_lt_of_le (pending_reserve_lt ho hfree) hp)
      obtain ⟨served, h, hk⟩ := ih.take (.object o) hfree hlt
      refine ⟨served ++ [.object o], h, fun x hx => ?_, ?_⟩
      · rcases List.mem_append.mp hx with hx | hx
        · exact hk x hx
        · exact ⟨o, ho, by simpa using hx⟩
      · exact (h.mem_reserved _).mpr (.inr (by simp [ErrorSource.name, ErrorSource.subject]))

/-! ## Endpoints -/

theorem visitEndpoint_of_not_hasBody {re : Resource × Endpoint} (h : re.2.hasBody = false) :
    visitEndpoint known p re = p := by
  rw [visitEndpoint_eq, h, if_neg Bool.false_ne_true]

theorem visitEndpoint_of_mem {re : Resource × Endpoint}
    (h : re.2.requestErrorName re.1 ∈ p.reserved) : visitEndpoint known p re = p := by
  rw [visitEndpoint_eq]
  split
  · exact take_of_mem known known.length (.endpoint re.1 re.2) h
  · rfl

/-- **An endpoint with a body is served if its name is free**, after known objects. -/
theorem visitEndpoint_extends (known : List Object) {r : Resource} {e : Endpoint} (hb : e.hasBody)
    (hfree : e.requestErrorName r ∉ p.reserved) :
    ∃ served, Extends known p (visitEndpoint known p (r, e)) (served ++ [.endpoint r e]) ∧
      ∀ x ∈ served, x.IsKnown known := by
  rw [visitEndpoint_eq, hb, if_pos rfl]
  exact (visit_extends known known.length).take (.endpoint r e) hfree (pending_le_length known _)

/-- The sources that a run over endpoints may serve. -/
def Serves (known : List Object) (endpoints : List (Resource × Endpoint)) (src : ErrorSource) :
    Prop :=
  src.IsKnown known ∨ ∃ re ∈ endpoints, re.2.hasBody ∧ src = .endpoint re.1 re.2

theorem visitEndpoint_serves (known : List Object) (p : RequestErrors)
    (re : Resource × Endpoint) :
    ∃ served, Extends known p (visitEndpoint known p re) served ∧
      (∀ src ∈ served, Serves known [re] src) ∧
      (re.2.hasBody → re.2.requestErrorName re.1 ∈ (visitEndpoint known p re).reserved) := by
  cases hb : re.2.hasBody
  · exact ⟨[], by rw [visitEndpoint_of_not_hasBody hb]; exact Extends.refl known p, by simp,
      by simp⟩
  · by_cases hfree : re.2.requestErrorName re.1 ∈ p.reserved
    · rw [visitEndpoint_of_mem hfree]
      exact ⟨[], Extends.refl known p, by simp, fun _ => hfree⟩
    · obtain ⟨served, h, hk⟩ := visitEndpoint_extends known hb hfree
      refine ⟨served ++ [.endpoint re.1 re.2], h, fun src hsrc => ?_, fun _ => ?_⟩
      · rcases List.mem_append.mp hsrc with hsrc | hsrc
        · exact .inl (hk src hsrc)
        · exact .inr ⟨re, List.mem_singleton_self _, hb, by simpa using hsrc⟩
      · exact (h.mem_reserved _).mpr (.inr (List.mem_map.mpr
          ⟨.endpoint re.1 re.2, by simp, rfl⟩))

/-- The state after a sequence of endpoints. -/
def after (known : List Object) (endpoints : List (Resource × Endpoint)) : RequestErrors :=
  endpoints.foldl (visitEndpoint known) (start known)

theorem ofEndpoints_eq (known : List Object) (endpoints : List (Resource × Endpoint)) :
    ofEndpoints known endpoints = (after known endpoints).emitted := rfl

/-- The run over a sequence of endpoints from any state. -/
theorem foldl_visitEndpoint_extends (known : List Object) (endpoints : List (Resource × Endpoint))
    (p : RequestErrors) :
    ∃ served, Extends known p (endpoints.foldl (visitEndpoint known) p) served ∧
      (∀ src ∈ served, Serves known endpoints src) ∧
      ∀ re ∈ endpoints, re.2.hasBody →
        re.2.requestErrorName re.1 ∈ (endpoints.foldl (visitEndpoint known) p).reserved := by
  -- on the endpoints: the run over the rest extends that of the first one
  induction endpoints generalizing p with
  | nil => exact ⟨[], Extends.refl known p, by simp, by simp⟩
  | cons re rest ih =>
    obtain ⟨xs, hx, hxs, hxn⟩ := visitEndpoint_serves known p re
    obtain ⟨ys, hy, hys, hyn⟩ := ih (visitEndpoint known p re)
    refine ⟨xs ++ ys, hx.trans hy, fun src hsrc => ?_, fun a ha hab => ?_⟩
    · rcases List.mem_append.mp hsrc with hsrc | hsrc
      · refine (hxs src hsrc).imp_right ?_
        rintro ⟨a, ha, hab⟩
        exact ⟨a, List.mem_cons.mpr (.inl (List.mem_singleton.mp ha)), hab⟩
      · refine (hys src hsrc).imp_right ?_
        rintro ⟨a, ha, hab⟩
        exact ⟨a, List.mem_cons_of_mem _ ha, hab⟩
    · rcases List.mem_cons.mp ha with rfl | ha
      · exact hy.mono (hxn hab)
      · exact hyn a ha hab

/-- **The run over a sequence of endpoints.** -/
theorem ofEndpoints_extends (known : List Object) (endpoints : List (Resource × Endpoint)) :
    ∃ served, Extends known (start known) (after known endpoints) served ∧
      (∀ src ∈ served, Serves known endpoints src) ∧
      ∀ re ∈ endpoints, re.2.hasBody →
        re.2.requestErrorName re.1 ∈ (after known endpoints).reserved :=
  foldl_visitEndpoint_extends known endpoints (start known)

theorem Extends.ofEndpoints_eq {endpoints : List (Resource × Endpoint)}
    (h : Extends known (start known) (after known endpoints) served) :
    ofEndpoints known endpoints = served.map (·.shape known) :=
  h.emitted

/-- The names taken when the run is over: those of known objects and of error objects. -/
theorem mem_reserved_after {endpoints : List (Resource × Endpoint)} {n : String} :
    n ∈ (after known endpoints).reserved ↔
      n ∈ known.map (·.name) ∨ n ∈ (ofEndpoints known endpoints).map (·.name) := by
  obtain ⟨served, h, -, -⟩ := ofEndpoints_extends known endpoints
  rw [h.mem_reserved, h.ofEndpoints_eq, ErrorSource.names_shapes]
  rfl

/-- Every endpoint with a body has an object under its error name. -/
theorem requestErrorName_mem {endpoints : List (Resource × Endpoint)} {re : Resource × Endpoint}
    (hre : re ∈ endpoints) (hb : re.2.hasBody) :
    re.2.requestErrorName re.1 ∈ known.map (·.name) ∨
      re.2.requestErrorName re.1 ∈ (ofEndpoints known endpoints).map (·.name) := by
  obtain ⟨served, -, -, hn⟩ := ofEndpoints_extends known endpoints
  exact mem_reserved_after.mp (hn re hre hb)

/-- Error objects have names of their own, none that of a known object. -/
theorem name_notMem_known {endpoints : List (Resource × Endpoint)} {n : String}
    (hn : n ∈ (ofEndpoints known endpoints).map (·.name)) : n ∉ known.map (·.name) := by
  obtain ⟨served, h, -, -⟩ := ofEndpoints_extends known endpoints
  rw [h.ofEndpoints_eq, ErrorSource.names_shapes] at hn
  exact h.fresh n hn

theorem nodup_names_ofEndpoints (known : List Object) (endpoints : List (Resource × Endpoint)) :
    ((ofEndpoints known endpoints).map (·.name)).Nodup := by
  obtain ⟨served, h, -, -⟩ := ofEndpoints_extends known endpoints
  rw [h.ofEndpoints_eq, ErrorSource.names_shapes]
  exact h.nodup

/-- Every error object is the shape of a known object or of an endpoint with a body. -/
theorem exists_source_of_mem {endpoints : List (Resource × Endpoint)} {x : Object}
    (hx : x ∈ ofEndpoints known endpoints) :
    ∃ src, Serves known endpoints src ∧ x = src.shape known := by
  obtain ⟨served, h, hs, -⟩ := ofEndpoints_extends known endpoints
  rw [h.ofEndpoints_eq] at hx
  obtain ⟨src, hsrc, rfl⟩ := List.mem_map.mp hx
  exact ⟨src, hs src hsrc, rfl⟩

/-- Endpoints whose error names are all taken get no error objects. -/
theorem ofEndpoints_eq_nil {endpoints : List (Resource × Endpoint)}
    (h : ∀ re ∈ endpoints, re.2.hasBody → re.2.requestErrorName re.1 ∈ known.map (·.name)) :
    ofEndpoints known endpoints = [] := by
  have hstay : endpoints.foldl (visitEndpoint known) (start known) = start known := by
    induction endpoints with
    | nil => rfl
    | cons re rest ih =>
      have hre : visitEndpoint known (start known) re = start known := by
        cases hb : re.2.hasBody
        · exact visitEndpoint_of_not_hasBody hb
        · exact visitEndpoint_of_mem (h re (List.mem_cons_self ..) hb)
      rw [List.foldl_cons, hre]
      exact ih fun a ha => h a (List.mem_cons_of_mem _ ha)
  rw [ofEndpoints, hstay]
  rfl

/-! ## The turn of an endpoint -/

/-- What is built for the first endpoints of a sequence stands before the rest. -/
theorem ofEndpoints_append (known : List Object) (pre post : List (Resource × Endpoint)) :
    ∃ later, ofEndpoints known (pre ++ post) = ofEndpoints known pre ++ later := by
  obtain ⟨served, h, -, -⟩ := foldl_visitEndpoint_extends known post (after known pre)
  refine ⟨served.map (·.shape known), ?_⟩
  rw [ofEndpoints_eq, after, List.foldl_append]
  exact h.emitted

/-- **The turn of an endpoint with a body whose name is free.**  Its error object is built after
those of known objects, and by then the error name of every known object in its body is taken. -/
theorem ofEndpoints_turn {r : Resource} {e : Endpoint} (hb : e.hasBody)
    {pre : List (Resource × Endpoint)}
    (hfree : e.requestErrorName r ∉ (known ++ ofEndpoints known pre).map (·.name))
    (post : List (Resource × Endpoint)) :
    ∃ (served : List ErrorSource) (later : List Object),
      ofEndpoints known (pre ++ (r, e) :: post) =
        ofEndpoints known pre ++
          (served ++ [ErrorSource.endpoint r e]).map (ErrorSource.shape known) ++ later ∧
      (∀ src ∈ served, src.IsKnown known) ∧
      ∀ o ∈ (ErrorSource.endpoint r e).nested known, Standard.requestErrorName o.name ∈
        (known ++ ofEndpoints known pre).map (·.name) ++
          (served ++ [ErrorSource.endpoint r e]).map ErrorSource.name := by
  have hreserved : ∀ n, n ∈ (after known pre).reserved ↔
      n ∈ (known ++ ofEndpoints known pre).map (·.name) := by
    intro n
    rw [mem_reserved_after, List.map_append, List.mem_append]
  rw [← hreserved] at hfree
  obtain ⟨served, h, hk⟩ := visitEndpoint_extends known hb hfree
  obtain ⟨rest, hrest, -, -⟩ := foldl_visitEndpoint_extends known post
    (visitEndpoint known (after known pre) (r, e))
  refine ⟨served, rest.map (·.shape known), ?_, hk, fun o ho => ?_⟩
  · rw [ofEndpoints_eq, after, List.foldl_append, List.foldl_cons]
    refine hrest.emitted.trans ?_
    rw [h.emitted]
    rfl
  · have hn := h.nested (.endpoint r e) (by simp) o ho
    rw [h.mem_reserved, hreserved] at hn
    exact List.mem_append.mpr hn

end RequestErrors

/-! ## References between error objects -/

theorem Field.errorShape_of_some {known : List Object} {f : Field} {o : Object}
    (h : nestedObject? known f = some o) :
    (f.errorShape known).type = .object (Standard.requestErrorName o.name) := by
  rw [errorShape, h]

theorem Field.errorShape_of_none {known : List Object} {f : Field}
    (h : nestedObject? known f = none) :
    (f.errorShape known).type = .object Standard.errorField := by
  rw [errorShape, h]

@[simp] theorem Field.name_errorShape (known : List Object) (f : Field) :
    (f.errorShape known).name = f.name := by
  rw [errorShape]
  split <;> rfl

/-- A field of an error object is a field error, or refers to the error object of an object that
the body refers to. -/
theorem ErrorSource.type_of_mem_shape {known : List Object} {src : ErrorSource} {f : Field}
    (hf : f ∈ (src.shape known).fields) :
    f.type = .object Standard.errorField ∨
      ∃ o ∈ src.nested known, f.type = .object (Standard.requestErrorName o.name) := by
  rw [src.fields_shape] at hf
  obtain ⟨g, hg, rfl⟩ := List.mem_map.mp hf
  cases hn : nestedObject? known g with
  | none => exact .inl (Field.errorShape_of_none hn)
  | some o =>
    have ho : o ∈ src.nested known := List.mem_filterMap.mpr ⟨g, hg, hn⟩
    exact .inr ⟨o, ho, Field.errorShape_of_some hn⟩

/-- **References between error objects lead somewhere.**  A field of an error object is a field
error, or refers to the error object of a known object, which is known itself or among those
built. -/
theorem RequestErrors.ofEndpoints_closed {known : List Object}
    {endpoints : List (Resource × Endpoint)} {x : Object} (hx : x ∈ ofEndpoints known endpoints)
    {f : Field} (hf : f ∈ x.fields) :
    f.type = .object Standard.errorField ∨ ∃ o ∈ known,
      f.type = .object (Standard.requestErrorName o.name) ∧
        (Standard.requestErrorName o.name ∈ known.map (·.name) ∨
          Standard.requestErrorName o.name ∈ (ofEndpoints known endpoints).map (·.name)) := by
  obtain ⟨served, h, -, -⟩ := ofEndpoints_extends known endpoints
  rw [h.ofEndpoints_eq] at hx
  obtain ⟨src, hsrc, rfl⟩ := List.mem_map.mp hx
  refine (src.type_of_mem_shape hf).imp_right ?_
  rintro ⟨o, ho, htype⟩
  exact ⟨o, src.nested_subset known o ho, htype, mem_reserved_after.mp (h.nested src hsrc o ho)⟩

end ServiceSpec
