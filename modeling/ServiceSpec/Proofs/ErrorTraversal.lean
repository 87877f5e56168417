import ServiceSpec.Proofs.ErrorMirrors
import ServiceSpec.Proofs.ErrorReach
import Mathlib.Logic.Relation

/-!
# The traversal that builds error objects

The builder searches the graph of known objects depth first, from the bodies of the endpoints in
turn, and marks an object by taking its error name before it follows its fields.  The marks are
shared by all endpoints.

That the search ends is a matter of the marks.  The definition bounds its depth by the number of
known objects, and the bound is never felt: `Runs` describes the same search with no bound at all,
and from any state, over any sources, there is one run and it ends.  Each level takes one more error
name of a known object, and an object whose name is taken is passed over, in a cycle as anywhere.

That the search finds what it should is a matter of names again.  An error name of an endpoint may
be asked for by a second endpoint, which then gets nothing and starts nothing.  As long as no error
name of an endpoint is also that of a known object, the error objects of known objects are exactly
those of the objects the served bodies lead to.

The order in which error objects come is the order in which the search leaves an object.  Hence an
error object stands after those it refers to, except for references to objects that the search has
not left yet.  These are the ones it came from, so without cycles there are none.  What is not an
object in a body is reported as a field error, and this reference is made whether or not the field
error is known; in an expansion it is.

## Main definitions

* `RequestErrors.Runs`: a run of the search over sources, whatever its depth
* `RequestErrors.Leads`: the known objects that a body leads to
* `RequestErrors.Acyclic`: no known object leads back to itself
* `RequestErrors.PointsBack`: error objects that refer to what is there and to those before them

## Main results

* `existsUnique_runs`, `runs_after`: the search ends, in the state that is computed
* `mem_names_ofEndpoints_iff`: the error objects of known objects that are built
* `Runs.orderly`: a run keeps references pointing back
* `ofEndpoints_traverses`: all of this for any sequence of endpoints
-/

namespace ServiceSpec

namespace RequestErrors

variable {known : List Object} {endpoints : List (Resource × Endpoint)} {p q r : RequestErrors}
  {srcs rest opened : List ErrorSource} {src : ErrorSource} {there : List String}
  {errors : List Object} {o x : Object}

/-! ## Runs of any depth -/

/-- The search from the state `p` over sources, one after the other, ends in the state `q`.  A
source whose name is free takes it, then all that its body refers to is searched, then its error
object is emitted. -/
inductive Runs (known : List Object) : RequestErrors → List ErrorSource → RequestErrors → Prop
  | nil (p : RequestErrors) : Runs known p [] p
  | taken {p q : RequestErrors} {src : ErrorSource} {rest : List ErrorSource}
      (h : src.name ∈ p.reserved) (hrest : Runs known p rest q) : Runs known p (src :: rest) q
  | serve {p q r : RequestErrors} {src : ErrorSource} {rest : List ErrorSource}
      (h : src.name ∉ p.reserved)
      (hnested : Runs known (p.reserve src.name) ((src.nested known).map .object) q)
      (hrest : Runs known (q.emit (src.shape known)) rest r) : Runs known p (src :: rest) r

namespace Runs

/-- A run ends in one state only. -/
theorem unique (h : Runs known p srcs q) (h' : Runs known p srcs r) : q = r := by
  induction h generalizing r with
  | nil p =>
    cases h'
    rfl
  | taken h _ ih =>
    cases h' with
    | taken _ hrest => exact ih hrest
    | serve hfree => exact absurd h hfree
  | serve hfree _ _ ihnested ihrest =>
    cases h' with
    | taken h => exact absurd h hfree
    | serve _ hnested hrest =>
      obtain rfl := ihnested hnested
      exact ihrest hrest

/-- Names stay taken. -/
theorem mono (h : Runs known p srcs q) {n : String} (hn : n ∈ p.reserved) : n ∈ q.reserved := by
  induction h with
  | nil p => exact hn
  | taken _ _ ih => exact ih hn
  | serve _ _ _ ihnested ihrest =>
    apply ihrest
    apply ihnested
    exact List.mem_cons_of_mem _ hn

/-- When the run is over, the name of every source is taken. -/
theorem name_mem (h : Runs known p srcs q) (hsrc : src ∈ srcs) : src.name ∈ q.reserved := by
  induction h with
  | nil p => cases hsrc
  | taken h hrest ih =>
    rcases List.mem_cons.mp hsrc with rfl | hsrc
    · exact hrest.mono h
    · exact ih hsrc
  | serve _ hnested hrest _ ih =>
    rcases List.mem_cons.mp hsrc with rfl | hsrc
    · apply hrest.mono
      apply hnested.mono
      exact List.mem_cons_self ..
    · exact ih hsrc

end Runs

/-- Visits of known objects, if they may go as deep as objects are pending, are runs. -/
def VisitsRun (known : List Object) (depth : Nat) : Prop :=
  ∀ (os : List Object) (p : RequestErrors), (∀ o ∈ os, o ∈ known) → pending known p ≤ depth →
    Runs known p (os.map .object) (os.foldl (visit known depth) p)

/-- A run goes through a source as the bounded search does. -/
theorem VisitsRun.take {depth : Nat} (hv : VisitsRun known depth)
    (hp : src.name ∉ p.reserved → pending known (p.reserve src.name) ≤ depth)
    (hrest : Runs known (take known depth p src) rest r) : Runs known p (src :: rest) r := by
  by_cases h : src.name ∈ p.reserved
  · rw [take_of_mem known depth src h] at hrest
    exact .taken h hrest
  · rw [take_of_notMem known depth src h] at hrest
    exact .serve h (hv _ _ (src.nested_subset known) (hp h)) hrest

/-- The names taken by a visit only add to those taken before. -/
theorem pending_visit_le {depth : Nat} (ho : o ∈ known) (hp : pending known p ≤ depth) :
    pending known (visit known depth p o) ≤ depth := by
  obtain ⟨served, hrun, -, -⟩ := visit_extends known depth p o ho hp
  exact Nat.le_trans (pending_le fun n hn => hrun.mono hn) hp

theorem visits_run (known : List Object) (depth : Nat) : VisitsRun known depth := by
  induction depth with
  | zero =>
    intro os
    induction os with
    | nil => exact fun p _ _ => .nil p
    | cons o rest ihrest =>
      -- nothing is pending, so a visit that may not begin has nothing to do
      intro p hos hp
      have htaken := reserved_of_pending_eq_zero (Nat.le_zero.mp hp) (hos o (List.mem_cons_self ..))
      exact .taken htaken (ihrest p (fun a ha => hos a (List.mem_cons_of_mem _ ha)) hp)
  | succ depth ih =>
    intro os
    induction os with
    | nil => exact fun p _ _ => .nil p
    | cons o rest ihrest =>
      intro p hos hp
      have ho : o ∈ known := hos o (List.mem_cons_self ..)
      have hlater := ihrest (visit known (depth + 1) p o)
        (fun a ha => hos a (List.mem_cons_of_mem _ ha)) (pending_visit_le ho hp)
      rw [List.map_cons, List.foldl_cons]
      rw [visit_succ] at hlater ⊢
      refine ih.take (fun hfree => ?_) hlater
      exact Nat.le_of_lt_succ (Nat.lt_of_lt_of_le (pending_reserve_lt ho hfree) hp)

/-- **The search ends**: from any state there is one run over any sources. -/
theorem existsUnique_runs (known : List Object) (p : RequestErrors) (srcs : List ErrorSource) :
    ∃! q, Runs known p srcs q := by
  have hexists : ∀ p, ∃ q, Runs known p srcs q := by
    induction srcs with
    | nil => exact fun p => ⟨p, .nil p⟩
    | cons src rest ih =>
      intro p
      obtain ⟨q, hq⟩ := ih (take known known.length p src)
      exact ⟨q, (visits_run known known.length).take (fun _ => pending_le_length known _) hq⟩
  obtain ⟨q, hq⟩ := hexists p
  exact ⟨q, hq, fun r hr => hr.unique hq⟩

/-- The endpoints that have a body, as sources. -/
def bodies (endpoints : List (Resource × Endpoint)) : List ErrorSource :=
  (endpoints.filter (·.2.hasBody)).map fun re => .endpoint re.1 re.2

theorem mem_bodies_iff : src ∈ bodies endpoints ↔
    ∃ re ∈ endpoints, re.2.hasBody ∧ src = .endpoint re.1 re.2 := by
  simp only [bodies, List.mem_map, List.mem_filter, and_assoc, eq_comm]

/-- **The state that is computed is the one in which the search ends.** -/
theorem runs_after (known : List Object) (endpoints : List (Resource × Endpoint)) :
    Runs known (start known) (bodies endpoints) (after known endpoints) := by
  have hfold : ∀ p, Runs known p (bodies endpoints)
      (endpoints.foldl (visitEndpoint known) p) := by
    induction endpoints with
    | nil => exact fun p => .nil p
    | cons re rest ih =>
      intro p
      obtain ⟨r, e⟩ := re
      have hlater := ih (visitEndpoint known p (r, e))
      rw [List.foldl_cons]
      cases hb : e.hasBody with
      | false =>
        rw [visitEndpoint_of_not_hasBody hb] at hlater ⊢
        rwa [bodies, List.filter_cons_of_neg (by simp [hb])]
      | true =>
        rw [visitEndpoint_eq, hb, if_pos rfl] at hlater ⊢
        rw [bodies, List.filter_cons_of_pos (by simp [hb]), List.map_cons]
        exact (visits_run known known.length).take (fun _ => pending_le_length known _) hlater
  exact hfold (start known)

/-! ## What the search finds -/

/-- The known objects that a body leads to, through known objects whose error name is not that of a
known object. -/
inductive Leads (known : List Object) (fields : List Field) : Object → Prop
  | refers {o : Object} {f : Field} (ho : o ∈ known) (hf : f ∈ fields)
      (htype : f.type = .object o.name) : Leads known fields o
  | through {m o : Object} {f : Field} (h : Leads known fields m)
      (hfree : Standard.requestErrorName m.name ∉ known.map (·.name)) (ho : o ∈ known)
      (hf : f ∈ m.fields) (htype : f.type = .object o.name) : Leads known fields o

/-- No error name of an endpoint with a body is that of a known object. -/
def ClearOf (known : List Object) (endpoints : List (Resource × Endpoint)) : Prop :=
  ∀ re ∈ endpoints, re.2.hasBody → ∀ o ∈ known,
    re.2.requestErrorName re.1 ≠ Standard.requestErrorName o.name

theorem mem_nested_iff (hn : (known.map (·.name)).Nodup) :
    o ∈ src.nested known ↔ o ∈ known ∧ ∃ f ∈ src.body, f.type = .object o.name := by
  rw [ErrorSource.nested, List.mem_filterMap]
  simp only [nestedObject?_eq_some_iff hn]
  constructor
  · rintro ⟨f, hf, ho, htype⟩
    exact ⟨ho, f, hf, htype⟩
  · rintro ⟨ho, f, hf, htype⟩
    exact ⟨f, hf, ho, htype⟩

/-- What has the error name of a known object is that object, if endpoints keep clear of it. -/
theorem ClearOf.eq_object (hc : ClearOf known endpoints) (hn : (known.map (·.name)).Nodup)
    (hsrc : Serves known endpoints src) (ho : o ∈ known)
    (hname : src.name = Standard.requestErrorName o.name) : src = .object o := by
  rcases hsrc with ⟨k, hk, rfl⟩ | ⟨re, hre, hb, rfl⟩
  · have hko : k.name = o.name := Standard.requestErrorName_injective hname
    rw [List.inj_on_of_nodup_map hn hk ho hko]
  · exact absurd hname (hc re hre hb o ho)

/-- An object is reached from a root whose body leads to it. -/
theorem Reached.exists_leads {roots : ErrorSource → Prop} (hn : (known.map (·.name)).Nodup)
    (h : Reached known roots src) :
    roots src ∨ ∃ o root, src = .object o ∧ Standard.requestErrorName o.name ∉ known.map (·.name) ∧
      roots root ∧ Leads known root.body o := by
  induction h with
  | root h => exact .inl h
  | nested _ ho hfree ih =>
    obtain ⟨hknown, f, hf, htype⟩ := (mem_nested_iff hn).mp ho
    rcases ih with hroot | ⟨m, root, rfl, hm, hroot, hleads⟩
    · exact .inr ⟨_, _, rfl, hfree, hroot, .refers hknown hf htype⟩
    · exact .inr ⟨_, root, rfl, hfree, hroot, hleads.through hm hknown hf htype⟩

/-- At the end, the error names of all that an opened endpoint refers to are taken. -/
theorem Opened.nested_mem (hsrc : Opened known endpoints src) (ho : o ∈ src.nested known) :
    Standard.requestErrorName o.name ∈ (after known endpoints).reserved := by
  obtain ⟨pre, r, e, post, rfl, hb, hfree, rfl⟩ := hsrc
  obtain ⟨served, hturn, -⟩ := visitEndpoint_extends known hb hfree
  obtain ⟨later, hlater, -, -⟩ := foldl_visitEndpoint_extends known post
    (visitEndpoint known (after known pre) (r, e))
  rw [after, List.foldl_append, List.foldl_cons]
  exact hlater.mono (hturn.nested (.endpoint r e) (by simp) o ho)

/-- At the end, the error names of all that an opened endpoint leads to are taken. -/
theorem Opened.leads_mem (hn : (known.map (·.name)).Nodup) (hc : ClearOf known endpoints)
    (hsrc : Opened known endpoints src) (h : Leads known src.body o) :
    Standard.requestErrorName o.name ∈ (after known endpoints).reserved := by
  obtain ⟨served, hrun, hserves, -⟩ := ofEndpoints_extends known endpoints
  -- an object on the way was served itself, since its error name was free and is no endpoint's
  induction h with
  | refers ho hf htype => exact hsrc.nested_mem ((mem_nested_iff hn).mpr ⟨ho, _, hf, htype⟩)
  | @through m o f h hfree ho hf htype ih =>
    have hm : m ∈ known := by cases h <;> assumption
    obtain ⟨a, ha, hname⟩ := List.mem_map.mp (((hrun.mem_reserved _).mp ih).resolve_left hfree)
    obtain rfl := hc.eq_object hn (hserves a ha) hm hname
    exact hrun.nested _ ha o ((mem_nested_iff hn).mpr ⟨ho, f, hf, htype⟩)

/-- **The error objects of known objects that are built**: those of the objects that the bodies of
opened endpoints lead to, but for those whose name is that of a known object. -/
theorem mem_names_ofEndpoints_iff (hn : (known.map (·.name)).Nodup)
    (hc : ClearOf known endpoints) (ho : o ∈ known) :
    Standard.requestErrorName o.name ∈ (ofEndpoints known endpoints).map (·.name) ↔
      Standard.requestErrorName o.name ∉ known.map (·.name) ∧
        ∃ src, Opened known endpoints src ∧ Leads known src.body o := by
  constructor
  · intro hmem
    obtain ⟨x, hx, hname⟩ := List.mem_map.mp hmem
    obtain ⟨src, hreached, rfl⟩ := (grounded_opened known endpoints).emitted x hx
    rw [ErrorSource.name_shape] at hname
    refine ⟨name_notMem_known hmem, ?_⟩
    rcases hreached.exists_leads hn with hopened | ⟨k, root, rfl, -, hopened, hleads⟩
    · obtain ⟨pre, r, e, post, rfl, hb, -, rfl⟩ := hopened
      exact absurd hname (hc (r, e) (List.mem_append_right _ (List.mem_cons_self ..)) hb o ho)
    · have hk : k ∈ known := by cases hleads <;> assumption
      obtain rfl : k = o :=
        List.inj_on_of_nodup_map hn hk ho (Standard.requestErrorName_injective hname)
      exact ⟨root, hopened, hleads⟩
  · rintro ⟨hfree, src, hopened, hleads⟩
    exact (mem_reserved_after.mp (hopened.leads_mem hn hc hleads)).resolve_left hfree

/-! ## The order of error objects -/

/-- A known object has a field that refers to another one. -/
def Refers (known : List Object) (a b : Object) : Prop :=
  a ∈ known ∧ b ∈ known ∧ ∃ f ∈ a.fields, f.type = .object b.name

/-- No known object leads back to itself. -/
def Acyclic (known : List Object) : Prop :=
  ∀ o, ¬ Relation.TransGen (Refers known) o o

/-- Every field of an error object refers to an object that is there anyway, or to an error object
that stands before. -/
def PointsBack (there : List String) (errors : List Object) : Prop :=
  ∀ pre x post, errors = pre ++ x :: post → ∀ f ∈ x.fields,
    ∃ n, f.type = .object n ∧ (n ∈ there ∨ n ∈ pre.map (·.name))

theorem pointsBack_nil (there : List String) : PointsBack there [] := by
  intro pre x post hsplit
  simp at hsplit

theorem PointsBack.mono (h : PointsBack there errors) {more : List String}
    (hsub : ∀ n ∈ there, n ∈ more) : PointsBack more errors := by
  intro pre x post hsplit f hf
  obtain ⟨n, htype, hn⟩ := h pre x post hsplit f hf
  exact ⟨n, htype, hn.imp_left (hsub n)⟩

/-- An error object that refers to what is there, and to those that stand already, can be added. -/
theorem PointsBack.concat (h : PointsBack there errors)
    (hx : ∀ f ∈ x.fields, ∃ n, f.type = .object n ∧ (n ∈ there ∨ n ∈ errors.map (·.name))) :
    PointsBack there (errors ++ [x]) := by
  intro pre y post hsplit
  rcases List.eq_nil_or_concat post with rfl | ⟨init, z, rfl⟩
  · obtain ⟨rfl, hlast⟩ := List.append_inj' hsplit rfl
    obtain rfl : x = y := by simpa using hlast
    exact hx
  · have hsplit' : errors ++ [x] = (pre ++ y :: init) ++ [z] := by simpa using hsplit
    obtain ⟨hinit, -⟩ := List.append_inj' hsplit' rfl
    exact h pre y init hinit

/-- One source refers to another one, which is then a known object. -/
def StepsTo (known : List Object) (a b : ErrorSource) : Prop :=
  ∃ o ∈ a.nested known, b = .object o

/-- Steps from a known object are references between known objects. -/
theorem exists_transGen_refers (hn : (known.map (·.name)).Nodup) (ho : o ∈ known)
    (h : Relation.TransGen (StepsTo known) (.object o) src) :
    ∃ x ∈ known, src = .object x ∧ Relation.TransGen (Refers known) o x := by
  have hstep : ∀ {a x : Object}, a ∈ known → x ∈ (ErrorSource.object a).nested known →
      Refers known a x := by
    intro a x ha hx
    obtain ⟨hx, hf⟩ := (mem_nested_iff hn).mp hx
    exact ⟨ha, hx, hf⟩
  induction h with
  | single h =>
    obtain ⟨x, hx, rfl⟩ := h
    exact ⟨x, ErrorSource.nested_subset known _ x hx, rfl, .single (hstep ho hx)⟩
  | tail _ h ih =>
    obtain ⟨a, ha, rfl, hpath⟩ := ih
    obtain ⟨x, hx, rfl⟩ := h
    exact ⟨x, ErrorSource.nested_subset known _ x hx, rfl, hpath.tail (hstep ha hx)⟩

/-- A state of the search inside the opened sources: the names taken are those of known objects, of
error objects and of opened sources, and error objects refer to what is there. -/
structure Orderly (known : List Object) (opened : List ErrorSource) (p : RequestErrors) :
    Prop where
  reserved : ∀ n ∈ p.reserved,
    n ∈ known.map (·.name) ∨ n ∈ p.emitted.map (·.name) ∨ n ∈ opened.map (·.name)
  pointsBack : PointsBack (Standard.errorField :: known.map (·.name)) p.emitted

theorem orderly_start (known : List Object) : Orderly known [] (start known) where
  reserved _ hn := .inl hn
  pointsBack := pointsBack_nil _

theorem Orderly.reserve (h : Orderly known opened p) (src : ErrorSource) :
    Orderly known (src :: opened) (p.reserve src.name) where
  reserved n hn := by
    rcases List.mem_cons.mp hn with rfl | hn
    · exact .inr (.inr (List.mem_cons_self ..))
    · exact (h.reserved n hn).imp_right (Or.imp_right (List.mem_cons_of_mem _))
  pointsBack := h.pointsBack

/-- A source can be left when the error names of all it refers to are taken, and none of them by a
source that is open. -/
theorem Orderly.emit (h : Orderly known (src :: opened) p)
    (htaken : ∀ o ∈ src.nested known, Standard.requestErrorName o.name ∈ p.reserved)
    (hleft : ∀ o ∈ src.nested known, ∀ a ∈ src :: opened,
      a.name ≠ Standard.requestErrorName o.name) :
    Orderly known opened (p.emit (src.shape known)) where
  reserved n hn := by
    rw [emitted_emit, List.map_append, List.mem_append]
    rcases h.reserved n hn with hn | hn | hn
    · exact .inl hn
    · exact .inr (.inl (.inl hn))
    · rcases List.mem_cons.mp hn with rfl | hn
      · exact .inr (.inl (.inr (by simp)))
      · exact .inr (.inr hn)
  pointsBack := by
    refine h.pointsBack.concat fun f hf => ?_
    rcases src.type_of_mem_shape hf with htype | ⟨o, ho, htype⟩
    · exact ⟨_, htype, .inl (List.mem_cons_self ..)⟩
    · refine ⟨_, htype, ?_⟩
      rcases h.reserved _ (htaken o ho) with hn | hn | hn
      · exact .inl (List.mem_cons_of_mem _ hn)
      · exact .inr hn
      · obtain ⟨a, ha, hname⟩ := List.mem_map.mp hn
        exact absurd hname (hleft o ho a ha)

/-- **A run keeps references pointing back**, if there are no cycles.  The opened sources are the
way on which the search came to the sources of the run. -/
theorem Runs.orderly (hn : (known.map (·.name)).Nodup) (hc : ClearOf known endpoints)
    (hacyclic : Acyclic known) (h : Runs known p srcs q)
    (hserves : ∀ src ∈ srcs, Serves known endpoints src)
    (hopen : ∀ a ∈ opened, Serves known endpoints a)
    (hway : ∀ a ∈ opened, ∀ src ∈ srcs, Relation.TransGen (StepsTo known) a src)
    (hp : Orderly known opened p) : Orderly known opened q := by
  induction h generalizing opened with
  | nil p => exact hp
  | taken _ _ ih =>
    exact ih (fun a ha => hserves a (List.mem_cons_of_mem _ ha)) hopen
      (fun a ha src hsrc => hway a ha src (List.mem_cons_of_mem _ hsrc)) hp
  | @serve p q r src rest _ hnested _ ihnested ihrest =>
    have hopen' : ∀ a ∈ src :: opened, Serves known endpoints a := by
      intro a ha
      rcases List.mem_cons.mp ha with rfl | ha
      · exact hserves a (List.mem_cons_self ..)
      · exact hopen a ha
    have hway' : ∀ a ∈ src :: opened, ∀ o ∈ src.nested known,
        Relation.TransGen (StepsTo known) a (.object o) := by
      intro a ha o ho
      rcases List.mem_cons.mp ha with rfl | ha
      · exact .single ⟨o, ho, rfl⟩
      · exact (hway a ha src (List.mem_cons_self ..)).tail ⟨o, ho, rfl⟩
    have hq : Orderly known (src :: opened) q := by
      apply ihnested _ hopen' _ (hp.reserve src)
      · intro a ha
        obtain ⟨o, ho, rfl⟩ := List.mem_map.mp ha
        exact .inl ⟨o, src.nested_subset known o ho, rfl⟩
      · intro a ha b hb
        obtain ⟨o, ho, rfl⟩ := List.mem_map.mp hb
        exact hway' a ha o ho
    have hleft : ∀ o ∈ src.nested known, ∀ a ∈ src :: opened,
        a.name ≠ Standard.requestErrorName o.name := by
      -- an open source of that name would be the object itself, and lead back to it
      intro o ho a ha hname
      have hknown := src.nested_subset known o ho
      obtain rfl := hc.eq_object hn (hopen' a ha) hknown hname
      obtain ⟨x, -, heq, hcycle⟩ := exists_transGen_refers hn hknown (hway' _ ha o ho)
      cases heq
      exact hacyclic o hcycle
    have htaken : ∀ o ∈ src.nested known, Standard.requestErrorName o.name ∈ q.reserved := by
      intro o ho
      have hmem : ErrorSource.object o ∈ (src.nested known).map .object := List.mem_map_of_mem ho
      exact hnested.name_mem hmem
    exact ihrest (fun a ha => hserves a (List.mem_cons_of_mem _ ha)) hopen
      (fun a ha b hb => hway a ha b (List.mem_cons_of_mem _ hb)) (hq.emit htaken hleft)

/-- Without cycles, error objects refer to the field error, to known objects and to error objects
before them. -/
theorem pointsBack_ofEndpoints (hn : (known.map (·.name)).Nodup) (hc : ClearOf known endpoints)
    (hacyclic : Acyclic known) :
    PointsBack (Standard.errorField :: known.map (·.name)) (ofEndpoints known endpoints) := by
  have hserves : ∀ src ∈ bodies endpoints, Serves known endpoints src := fun src hsrc =>
    .inr (mem_bodies_iff.mp hsrc)
  have horderly : Orderly known [] (after known endpoints) :=
    (runs_after known endpoints).orderly hn hc hacyclic hserves (by simp) (by simp)
      (orderly_start known)
  exact horderly.pointsBack

/-- **What the search does for any sequence of endpoints.**  It ends, whatever refers to what.
Among known objects with distinct names, whose error names are those of no endpoint, an error object
is built for exactly those that the bodies of opened endpoints lead to, and it is built once.  If no
known object leads back to itself, an error object stands after those it refers to; all else it
refers to is known, or the field error, which is referred to even if it is not known. -/
theorem ofEndpoints_traverses (known : List Object) (endpoints : List (Resource × Endpoint)) :
    (∀ p srcs, ∃! q, Runs known p srcs q) ∧
    Runs known (start known) (bodies endpoints) (after known endpoints) ∧
    ((known.map (·.name)).Nodup → ClearOf known endpoints →
      (∀ o ∈ known,
        (Standard.requestErrorName o.name ∈ (ofEndpoints known endpoints).map (·.name) ↔
          Standard.requestErrorName o.name ∉ known.map (·.name) ∧
            ∃ pre r e post, endpoints = pre ++ (r, e) :: post ∧ e.hasBody ∧
              e.requestErrorName r ∉ (after known pre).reserved ∧
              Leads known e.request.bodyParams o) ∧
        ((ofEndpoints known endpoints).map (·.name)).count
          (Standard.requestErrorName o.name) ≤ 1) ∧
      (Acyclic known →
        PointsBack (Standard.errorField :: known.map (·.name)) (ofEndpoints known endpoints) ∧
        (Standard.errorField ∈ known.map (·.name) →
          PointsBack (known.map (·.name)) (ofEndpoints known endpoints)))) := by
  refine ⟨existsUnique_runs known, runs_after known endpoints, fun hn hc => ⟨?_, ?_⟩⟩
  · intro o ho
    refine ⟨?_, List.nodup_iff_count_le_one.mp (nodup_names_ofEndpoints known endpoints) _⟩
    rw [mem_names_ofEndpoints_iff hn hc ho]
    refine and_congr_right fun _ => ⟨?_, ?_⟩
    · rintro ⟨src, ⟨pre, r, e, post, hsplit, hb, hfree, rfl⟩, hleads⟩
      exact ⟨pre, r, e, post, hsplit, hb, hfree, hleads⟩
    · rintro ⟨pre, r, e, post, hsplit, hb, hfree, hleads⟩
      exact ⟨.endpoint r e, ⟨pre, r, e, post, hsplit, hb, hfree, rfl⟩, hleads⟩
  · intro hacyclic
    have hback := pointsBack_ofEndpoints hn hc hacyclic
    refine ⟨hback, fun herror => hback.mono fun n hmem => ?_⟩
    rcases List.mem_cons.mp hmem with rfl | hmem
    · exact herror
    · exact hmem

/-- Objects without cycles, one of them with an error name that is known. -/
def ledger : List Object :=
  [{ name := "Invoice"
     fields :=
       [{ name := "lines", type := .object "Line", modifiers := [.array] },
        { name := "payer", type := .object "Customer" }] },
   { name := "Line", fields := [{ name := "item", type := .object "Item" }] },
   { name := "Item", fields := [{ name := "price", type := .primitive .int }] },
   { name := "Customer", fields := [{ name := "home", type := .object "Address" }] },
   { name := "CustomerRequestError" },
   { name := "Address" },
   { name := Standard.errorField }]

/-- Endpoints on these objects, the last of which asks for an error name a second time. -/
def billing : List (Resource × Endpoint) :=
  [({ name := "Bill" },
    { name := "Create"
      method := .post
      request := { bodyParams := [{ name := "invoice", type := .object "Invoice" }] } }),
   ({ name := "Bill" },
    { name := "Create"
      method := .put
      request := { bodyParams := [{ name := "address", type := .object "Address" }] } })]

theorem ledger_acyclic : Acyclic ledger := by
  have hlater : ∀ a ∈ ledger, ∀ b ∈ ledger, (∃ f ∈ a.fields, f.type = .object b.name) →
      ledger.findIdx (·.name = a.name) < ledger.findIdx (·.name = b.name) := by decide +kernel
  intro o hcycle
  have hpath := hcycle.lift (fun a => ledger.findIdx (·.name = a.name))
    fun a b h => hlater a h.1 b h.2.1 h.2.2
  rw [Relation.transGen_eq_self] at hpath
  exact Nat.lt_irrefl _ hpath

theorem ofEndpoints_traverses_ledger :
    (ledger.map (·.name)).Nodup ∧ ClearOf ledger billing ∧ Acyclic ledger ∧
      (ofEndpoints ledger billing).map (·.name) =
        ["ItemRequestError", "LineRequestError", "InvoiceRequestError",
          "BillCreateRequestError"] ∧
      (∀ o ∈ ledger,
        Standard.requestErrorName o.name ∈ (ofEndpoints ledger billing).map (·.name) ↔
          Standard.requestErrorName o.name ∉ ledger.map (·.name) ∧
            ∃ pre r e post, billing = pre ++ (r, e) :: post ∧ e.hasBody ∧
              e.requestErrorName r ∉ (after ledger pre).reserved ∧
              Leads ledger e.request.bodyParams o) ∧
      PointsBack (ledger.map (·.name)) (ofEndpoints ledger billing) := by
  have hn : (ledger.map (·.name)).Nodup := by decide +kernel
  have hc : ClearOf ledger billing := by
    unfold ClearOf
    decide +kernel
  obtain ⟨-, -, hmain⟩ := ofEndpoints_traverses ledger billing
  obtain ⟨hreach, horder⟩ := hmain hn hc
  exact ⟨hn, hc, ledger_acyclic, by decide +kernel, fun o ho => (hreach o ho).1,
    (horder ledger_acyclic).2 (by decide +kernel)⟩

/-- An endpoint whose body is a text. -/
def noteTaking : List (Resource × Endpoint) :=
  [({ name := "Note" },
    { name := "Create"
      method := .post
      request := { bodyParams := [{ name := "title", type := .primitive .string }] } })]

/-- Where nothing is known the field error is not, and an error object refers to it all the same. -/
theorem not_pointsBack_noteTaking :
    (([] : List Object).map (·.name)).Nodup ∧ ClearOf [] noteTaking ∧ Acyclic [] ∧
      (ofEndpoints [] noteTaking).map (fun x => (x.name, x.fields.map (·.type))) =
        [("NoteCreateRequestError", [.object "ErrorField"])] ∧
      ¬ PointsBack (([] : List Object).map (·.name)) (ofEndpoints [] noteTaking) := by
  have hclear : ClearOf [] noteTaking := by
    intro re _ _ o ho
    cases ho
  have hacyclic : Acyclic [] := by
    intro o hcycle
    obtain ⟨x, ⟨ho, -⟩, -⟩ := Relation.TransGen.head'_iff.mp hcycle
    cases ho
  refine ⟨List.nodup_nil, hclear, hacyclic, by decide +kernel, fun hback => ?_⟩
  obtain ⟨n, -, hthere | hbefore⟩ := hback [] _ [] rfl _ (List.mem_cons_self ..)
  · cases hthere
  · cases hbefore

end RequestErrors

end ServiceSpec
