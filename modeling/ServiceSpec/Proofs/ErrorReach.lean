import ServiceSpec.Proofs.RequestErrors
import ServiceSpec.Proofs.Validation
import Mathlib.Data.List.Induction

/-!
# What the error object builder reaches

The builder follows the fields of the bodies of endpoints to known objects, and from these on to
others.  It stops at objects whose error name is that of a known object, since those names are taken
from the start, and at objects it has been at before.  So what it emits is what can be reached from
the bodies it starts with, and the order in which it comes to an object decides only where the error
object of it stands.

This needs error names to tell sources apart.  Where two sources have one error name, the builder
serves the one it comes to first.

## Main definitions

* `RequestErrors.Reached`: the sources that can be reached from given roots
* `RequestErrors.Grounded`: a state in which only such sources have been served
* `RequestErrors.NamesApart`: no two sources have the same error name

## Main results

* `visit_grounded`: a visit of a reached object serves reached sources
* `grounded_opened`, `grounded_after`: a run over endpoints serves what can be reached from their
  bodies
* `mem_ofEndpoints_iff`: where names tell sources apart, it serves all of that
* `ofEndpoints_perm`: then the error objects are the same for any order of what they are made for
-/

namespace ServiceSpec

namespace RequestErrors

variable {known : List Object} {roots : ErrorSource → Prop} {p : RequestErrors}
  {endpoints : List (Resource × Endpoint)} {src : ErrorSource} {o x : Object}

/-! ## Reached sources -/

/-- The sources that can be reached from the roots: a known object is reached from a body that
refers to it, unless its error name is that of a known object. -/
inductive Reached (known : List Object) (roots : ErrorSource → Prop) : ErrorSource → Prop
  | root {src : ErrorSource} (h : roots src) : Reached known roots src
  | nested {src : ErrorSource} {o : Object} (h : Reached known roots src)
      (ho : o ∈ src.nested known)
      (hfree : Standard.requestErrorName o.name ∉ known.map (·.name)) :
      Reached known roots (.object o)

theorem Reached.mono {more : ErrorSource → Prop} (h : Reached known roots src)
    (hroots : ∀ src, roots src → more src) : Reached known more src := by
  induction h with
  | root h => exact .root (hroots _ h)
  | nested _ ho hfree ih => exact .nested ih ho hfree

/-- What is reached depends on the known objects only by what bodies refer to and by names. -/
theorem Reached.congr {others : List Object} (h : Reached known roots src)
    (hnested : ∀ src : ErrorSource, src.nested known = src.nested others)
    (hnames : ∀ n, n ∈ others.map (·.name) → n ∈ known.map (·.name)) :
    Reached others roots src := by
  induction h with
  | root h => exact .root h
  | nested _ ho hfree ih => exact .nested ih (hnested _ ▸ ho) fun hn => hfree (hnames _ hn)

/-! ## States of a run -/

/-- The names of known objects are taken, and only reached sources have been served. -/
structure Grounded (known : List Object) (roots : ErrorSource → Prop) (p : RequestErrors) :
    Prop where
  taken : ∀ n ∈ known.map (·.name), n ∈ p.reserved
  emitted : ∀ x ∈ p.emitted, ∃ src, Reached known roots src ∧ x = src.shape known

theorem grounded_start (known : List Object) (roots : ErrorSource → Prop) :
    Grounded known roots (start known) where
  taken _ hn := hn
  emitted _ hx := absurd hx List.not_mem_nil

theorem Grounded.mono {more : ErrorSource → Prop} (h : Grounded known roots p)
    (hroots : ∀ src, roots src → more src) : Grounded known more p where
  taken := h.taken
  emitted x hx := by
    obtain ⟨src, hsrc, rfl⟩ := h.emitted x hx
    exact ⟨src, hsrc.mono hroots, rfl⟩

theorem Grounded.reserve (h : Grounded known roots p) (n : String) :
    Grounded known roots (p.reserve n) where
  taken _ hm := List.mem_cons_of_mem _ (h.taken _ hm)
  emitted := h.emitted

theorem Grounded.emit (h : Grounded known roots p) (hsrc : Reached known roots src) :
    Grounded known roots (p.emit (src.shape known)) where
  taken := h.taken
  emitted x hx := by
    rcases List.mem_append.mp hx with hx | hx
    · exact h.emitted x hx
    · exact ⟨src, hsrc, List.mem_singleton.mp hx⟩

/-- Visits of objects that are reached, if their names are free, keep a state grounded. -/
def VisitsGrounded (known : List Object) (roots : ErrorSource → Prop) (depth : Nat) : Prop :=
  ∀ (p : RequestErrors) (o : Object), Grounded known roots p →
    (Standard.requestErrorName o.name ∉ known.map (·.name) → Reached known roots (.object o)) →
    Grounded known roots (visit known depth p o)

/-- Serving a source keeps a state grounded: what its body refers to is reached from it. -/
theorem VisitsGrounded.take {depth : Nat} (hv : VisitsGrounded known roots depth)
    (h : Grounded known roots p) (hsrc : src.name ∉ p.reserved → Reached known roots src) :
    Grounded known roots (take known depth p src) := by
  by_cases hname : src.name ∈ p.reserved
  · rwa [take_of_mem known depth src hname]
  · rw [take_of_notMem known depth src hname]
    have hreached := hsrc hname
    have hnested : Grounded known roots
        ((src.nested known).foldl (visit known depth) (p.reserve src.name)) :=
      List.foldlRecOn _ _ (h.reserve src.name) fun q hq o ho => hv q o hq (hreached.nested ho)
    exact hnested.emit hreached

/-- **A visit of a reached object serves reached sources.** -/
theorem visit_grounded (known : List Object) (roots : ErrorSource → Prop) (depth : Nat) :
    VisitsGrounded known roots depth := by
  induction depth with
  | zero => exact fun p o h _ => h
  | succ depth ih =>
    intro p o h ho
    rw [visit_succ]
    -- names of known objects are taken, so a free one is none of them
    exact ih.take h fun hfree => ho fun hmem => hfree (h.taken _ hmem)

theorem visitEndpoint_grounded (h : Grounded known roots p) {r : Resource} {e : Endpoint}
    (hroot : e.hasBody → e.requestErrorName r ∉ p.reserved → roots (.endpoint r e)) :
    Grounded known roots (visitEndpoint known p (r, e)) := by
  rw [visitEndpoint_eq]
  split
  · exact (visit_grounded known roots known.length).take h fun hfree =>
      .root (hroot ‹_› hfree)
  · exact h

/-! ## Runs over endpoints -/

/-- The endpoints with a body whose error name is free when their turn comes. -/
def Opened (known : List Object) (endpoints : List (Resource × Endpoint)) (src : ErrorSource) :
    Prop :=
  ∃ pre r e post, endpoints = pre ++ (r, e) :: post ∧ e.hasBody ∧
    e.requestErrorName r ∉ (after known pre).reserved ∧ src = .endpoint r e

/-- **A run over endpoints serves what can be reached from those whose name was free.** -/
theorem grounded_opened (known : List Object) (endpoints : List (Resource × Endpoint)) :
    Grounded known (Opened known endpoints) (after known endpoints) := by
  have hprefix : ∀ pre post, endpoints = pre ++ post →
      Grounded known (Opened known endpoints) (after known pre) := by
    intro pre
    -- on the endpoints whose turn is over, the last one first
    induction pre using List.reverseRecOn with
    | nil => exact fun _ _ => grounded_start known _
    | append_singleton pre re ih =>
      intro post hsplit
      rw [List.append_assoc, List.singleton_append] at hsplit
      rw [after, List.foldl_append]
      refine visitEndpoint_grounded (ih (re :: post) hsplit) fun hb hfree => ?_
      exact ⟨pre, re.1, re.2, post, hsplit, hb, hfree, rfl⟩
  exact hprefix endpoints [] (List.append_nil endpoints).symm

/-- The endpoints with a body whose error name is not that of a known object. -/
def Roots (known : List Object) (endpoints : List (Resource × Endpoint)) (src : ErrorSource) :
    Prop :=
  ∃ re ∈ endpoints, re.2.hasBody ∧ src = .endpoint re.1 re.2 ∧
    src.name ∉ known.map (·.name)

/-- **A run over endpoints serves what can be reached from their bodies.** -/
theorem grounded_after (known : List Object) (endpoints : List (Resource × Endpoint)) :
    Grounded known (Roots known endpoints) (after known endpoints) := by
  apply (grounded_opened known endpoints).mono
  rintro src ⟨pre, r, e, post, rfl, hb, hfree, rfl⟩
  refine ⟨(r, e), List.mem_append_right _ (List.mem_cons_self ..), hb, rfl, fun hmem => ?_⟩
  exact hfree (mem_reserved_after.mpr (.inl hmem))

/-- No two sources of a run have the same error name. -/
def NamesApart (known : List Object) (endpoints : List (Resource × Endpoint)) : Prop :=
  ∀ a b, Serves known endpoints a → Serves known endpoints b → a.name = b.name → a = b

/-- The sources of a run: known objects, and endpoints with a body. -/
def sources (known : List Object) (endpoints : List (Resource × Endpoint)) : List ErrorSource :=
  known.map .object ++ (endpoints.filter (·.2.hasBody)).map fun re => .endpoint re.1 re.2

theorem mem_sources_iff : src ∈ sources known endpoints ↔ Serves known endpoints src := by
  simp only [sources, List.mem_append, List.mem_map, List.mem_filter, Serves,
    ErrorSource.IsKnown, and_assoc, eq_comm]

theorem namesApart_of_nodup (h : ((sources known endpoints).map (·.name)).Nodup) :
    NamesApart known endpoints :=
  fun _ _ ha hb => List.inj_on_of_nodup_map h (mem_sources_iff.mpr ha) (mem_sources_iff.mpr hb)

theorem Reached.serves (h : Reached known (Roots known endpoints) src) :
    Serves known endpoints src := by
  cases h with
  | root h =>
    obtain ⟨re, hre, hb, heq, -⟩ := h
    exact .inr ⟨re, hre, hb, heq⟩
  | nested _ ho _ => exact .inl ⟨_, ErrorSource.nested_subset known _ _ ho, rfl⟩

theorem Reached.free (h : Reached known (Roots known endpoints) src) :
    src.name ∉ known.map (·.name) := by
  cases h with
  | root h =>
    obtain ⟨-, -, -, -, hfree⟩ := h
    exact hfree
  | nested _ _ hfree => exact hfree

/-- Where names tell sources apart, a reached source is among those that a run serves. -/
theorem Reached.mem_served (hapart : NamesApart known endpoints) {served : List ErrorSource}
    (hrun : Extends known (start known) (after known endpoints) served)
    (hserves : ∀ a ∈ served, Serves known endpoints a)
    (hdone : ∀ re ∈ endpoints, re.2.hasBody →
      re.2.requestErrorName re.1 ∈ (after known endpoints).reserved)
    (h : Reached known (Roots known endpoints) src) : src ∈ served := by
  -- a name that was free and is taken when the run is over was taken for the source itself
  have htaken : ∀ src, Reached known (Roots known endpoints) src →
      src.name ∈ (after known endpoints).reserved → src ∈ served := by
    intro src hsrc hname
    have hnew := ((hrun.mem_reserved _).mp hname).resolve_left hsrc.free
    obtain ⟨a, ha, heq⟩ := List.mem_map.mp hnew
    rwa [← hapart a src (hserves a ha) hsrc.serves heq]
  -- on the way to the source: endpoints take their names, and served sources those of what they
  -- refer to
  induction h with
  | root h =>
    refine htaken _ (.root h) ?_
    obtain ⟨re, hre, hb, rfl, -⟩ := h
    exact hdone re hre hb
  | nested h ho hfree ih => exact htaken _ (h.nested ho hfree) (hrun.nested _ ih _ ho)

/-- **What a run over endpoints emits, where names tell sources apart**: the error objects of all
that can be reached from their bodies. -/
theorem mem_ofEndpoints_iff (hapart : NamesApart known endpoints) :
    x ∈ ofEndpoints known endpoints ↔
      ∃ src, Reached known (Roots known endpoints) src ∧ x = src.shape known := by
  constructor
  · exact (grounded_after known endpoints).emitted x
  · rintro ⟨src, hsrc, rfl⟩
    obtain ⟨served, hrun, hserves, hdone⟩ := ofEndpoints_extends known endpoints
    rw [hrun.ofEndpoints_eq]
    exact List.mem_map_of_mem (hsrc.mem_served hapart hrun hserves hdone)

end RequestErrors

/-! ## The order of known objects and endpoints -/

section Order

variable {known others : List Object}

/-- What a field refers to does not depend on the order of the known objects. -/
theorem nestedObject?_perm (hk : known.Perm others) (hn : (known.map (·.name)).Nodup) :
    nestedObject? known = nestedObject? others := by
  funext f
  rw [nestedObject?, nestedObject?]
  exact congrArg f.type.objectName?.bind (funext fun n => find?_key_perm hk hn n)

theorem ErrorSource.nested_perm (hk : known.Perm others) (hn : (known.map (·.name)).Nodup)
    (src : ErrorSource) : src.nested known = src.nested others := by
  rw [nested, nested, nestedObject?_perm hk hn]

theorem ErrorSource.shape_perm (hk : known.Perm others) (hn : (known.map (·.name)).Nodup)
    (src : ErrorSource) : src.shape known = src.shape others := by
  have hfields : Field.errorShape known = Field.errorShape others := by
    funext f
    rw [Field.errorShape, Field.errorShape, nestedObject?_perm hk hn]
  cases src with
  | object o => rw [shape, shape, Object.errorShape, Object.errorShape, hfields]
  | endpoint r e => rw [shape, shape, Endpoint.errorShape, Endpoint.errorShape, hfields]

namespace RequestErrors

variable {endpoints turns : List (Resource × Endpoint)} {src : ErrorSource}

theorem Serves.perm (h : Serves known endpoints src) (hk : known.Perm others)
    (he : endpoints.Perm turns) : Serves others turns src := by
  rcases h with ⟨o, ho, rfl⟩ | ⟨re, hre, hb, rfl⟩
  · exact .inl ⟨o, hk.mem_iff.mp ho, rfl⟩
  · exact .inr ⟨re, he.mem_iff.mp hre, hb, rfl⟩

theorem NamesApart.perm (h : NamesApart known endpoints) (hk : known.Perm others)
    (he : endpoints.Perm turns) : NamesApart others turns :=
  fun a b ha hb hname => h a b (ha.perm hk.symm he.symm) (hb.perm hk.symm he.symm) hname

theorem Reached.perm (h : Reached known (Roots known endpoints) src) (hk : known.Perm others)
    (hn : (known.map (·.name)).Nodup) (he : endpoints.Perm turns) :
    Reached others (Roots others turns) src := by
  have hnames : ∀ n, n ∈ known.map (·.name) ↔ n ∈ others.map (·.name) := fun n =>
    (hk.map (·.name)).mem_iff
  refine (h.congr (ErrorSource.nested_perm hk hn) fun n => (hnames n).mpr).mono ?_
  rintro src ⟨re, hre, hb, rfl, hfree⟩
  exact ⟨re, he.mem_iff.mp hre, hb, rfl, mt (hnames _).mpr hfree⟩

/-- **The error objects do not depend on the order** of known objects and of endpoints, where names
tell sources apart, though their own order does. -/
theorem ofEndpoints_perm (hk : known.Perm others) (hn : (known.map (·.name)).Nodup)
    (he : endpoints.Perm turns) (hapart : NamesApart known endpoints) :
    (ofEndpoints known endpoints).Perm (ofEndpoints others turns) := by
  have hn' : (others.map (·.name)).Nodup := (hk.map (·.name)).nodup_iff.mp hn
  rw [List.perm_ext_iff_of_nodup (nodup_names_ofEndpoints known endpoints).of_map
    (nodup_names_ofEndpoints others turns).of_map]
  intro x
  rw [mem_ofEndpoints_iff hapart, mem_ofEndpoints_iff (hapart.perm hk he)]
  constructor
  · rintro ⟨src, hsrc, rfl⟩
    exact ⟨src, hsrc.perm hk hn he, src.shape_perm hk hn⟩
  · rintro ⟨src, hsrc, rfl⟩
    exact ⟨src, hsrc.perm hk.symm hn' he.symm, src.shape_perm hk.symm hn'⟩

end RequestErrors

end Order

end ServiceSpec
