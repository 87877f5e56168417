import ServiceSpec.Proofs.AtomicWriting
import ServiceSpec.Proofs.ParentPaths

/-!
# Watching a tree

What a program leaves does not say what others may have seen while it ran.  A watched tree keeps all
the states it has been in.  An operation goes from one state to another at once, but for a write,
which makes an empty file and then fills it.

A file system has more reasons to refuse an operation than a tree shows, such as permissions.  They
are a parameter of what happens to a watched tree.  Where nothing is refused, programs do what they
do on a tree.

## Main definitions

* `WatchedTree`: a tree with its past
* `WatchM`: programs on a watched tree, which may be refused operations
* `WatchM.Passes`: all states that a program passes through are related to the one it starts in

## Main results

* `WatchM.passes_prepareDirectory`: preparing a directory only makes directories on the way
* `WatchM.writeAtomic_follows`: where nothing is refused, a watched write is a write
-/

namespace ServiceSpec

/-- An operation that is to change what is on a file system. -/
inductive FileOperation where
  | makeDirectory (path : String)
  | write (path : String)
  | rename (source target : String)
  | remove (path : String)
  deriving DecidableEq

/-- What a file system refuses, and why, for reasons that its tree does not show. -/
abbrev Refusals : Type :=
  FileTree → FileOperation → Option FileError

/-- A tree and what it has been, the last state first. -/
structure WatchedTree where
  tree : FileTree
  past : List FileTree := []

/-- All states of a watched tree up to now. -/
def WatchedTree.states (w : WatchedTree) : List FileTree :=
  w.tree :: w.past

/-- Programs on a watched tree. -/
abbrev WatchM : Type → Type :=
  ReaderT Refusals (StateM WatchedTree)

/-- The states of a file while it is written: empty at first, then with more and more of its
content. -/
def FileTree.partials (t : FileTree) (p : Place) (content : ByteArray) : List FileTree :=
  (List.range (content.size + 1)).map fun k => t.place p (.file (content.extract 0 k))

namespace WatchM

/-- An operation on a watched tree, with the states it passes through.  If it is refused or fails,
the tree stays as it is. -/
def attempt (o : FileOperation) (operation : FileTree → Except FileError FileTree)
    (between : FileTree → List FileTree) : WatchM (Except FileError Unit) :=
  fun refuses w =>
    match refuses w.tree o with
    | some e => (.error e, w)
    | none =>
      match operation w.tree with
      | .error e => (.error e, w)
      | .ok t => (.ok (), ⟨t, between w.tree ++ w.states⟩)

/-- A watched tree as a file system. -/
instance : FileAccess WatchM where
  read path := fun _ w => (w.tree.read path, w)
  makeDirectory path := attempt (.makeDirectory path) (·.makeDirectory path) fun _ => []
  isDirectory path := fun _ w => (w.tree.isDirectory path, w)
  write path content := attempt (.write path) (·.write path content) fun t =>
    t.partials (t.placeOf path) content.toUTF8
  rename source target := attempt (.rename source target) (·.rename source target) fun _ => []
  remove path := attempt (.remove path) (·.remove path) fun _ => []

variable {refuses : Refusals} {w w' : WatchedTree} {path : String}

/-- What is done after a program is done on what that leaves. -/
theorem exists_of_run_bind_eq {α β : Type} {x : WatchM α} {f : α → WatchM β} {b : β}
    (h : (x >>= f) refuses w = (b, w')) :
    ∃ a w₁, x refuses w = (a, w₁) ∧ f a refuses w₁ = (b, w') :=
  ⟨_, _, rfl, h⟩

section

variable {o : FileOperation} {operation : FileTree → Except FileError FileTree}
  {between : FileTree → List FileTree}

/-- An operation that is answered by an error changes nothing, and there is a reason. -/
theorem attempt_eq_error {e : FileError}
    (h : attempt o operation between refuses w = (.error e, w')) :
    w' = w ∧ (refuses w.tree o = some e ∨ operation w.tree = .error e) := by
  unfold attempt at h
  split at h
  · cases h
    exact ⟨rfl, .inl ‹_›⟩
  split at h <;> cases h
  exact ⟨rfl, .inr ‹_›⟩

theorem attempt_eq_ok (h : attempt o operation between refuses w = (.ok (), w')) :
    ∃ t, operation w.tree = .ok t ∧ w' = ⟨t, between w.tree ++ w.states⟩ := by
  unfold attempt at h
  split at h
  · cases h
  split at h <;> cases h
  exact ⟨_, ‹_›, rfl⟩

end

/-! ## States that programs pass through -/

/-- All states that a program passes through are related in this way to the one it starts in. -/
def Passes (R : FileTree → FileTree → Prop) {α : Type} (x : WatchM α) : Prop :=
  ∀ refuses w, R w.tree (x refuses w).2.tree ∧
    ∀ s ∈ (x refuses w).2.past, s ∈ w.past ∨ R w.tree s

namespace Passes

variable {R : FileTree → FileTree → Prop} [IsPreorder FileTree R] {α β : Type}

theorem pure (a : α) : Passes R (pure a : WatchM α) :=
  fun _ w => ⟨refl_of R w.tree, fun _ hs => .inl hs⟩

theorem bind {x : WatchM α} {f : α → WatchM β} (hx : Passes R x) (hf : ∀ a, Passes R (f a)) :
    Passes R (x >>= f) := by
  intro refuses w
  obtain ⟨hfirst, hfirstPast⟩ := hx refuses w
  obtain ⟨hlast, hlastPast⟩ := hf (x refuses w).1 refuses (x refuses w).2
  refine ⟨trans_of R hfirst hlast, fun s hs => ?_⟩
  rcases hlastPast s hs with hs | hs
  · exact hfirstPast s hs
  · exact .inr (trans_of R hfirst hs)

theorem sequential : Sequential fun α (x _ : WatchM α) => Passes R x :=
  ⟨pure, bind⟩

theorem isDirectory (path : String) : Passes R (FileAccess.isDirectory path : WatchM _) :=
  fun _ w => ⟨refl_of R w.tree, fun _ hs => .inl hs⟩

/-- An operation that passes through no states of its own. -/
theorem attempt {o : FileOperation} {operation : FileTree → Except FileError FileTree}
    (h : ∀ t t', operation t = .ok t' → R t t') :
    Passes R (attempt o operation fun _ => []) := by
  intro refuses w
  rcases hrun : WatchM.attempt o operation (fun _ => []) refuses w with ⟨answer, w'⟩
  cases answer with
  | error e =>
    obtain ⟨rfl, -⟩ := attempt_eq_error hrun
    exact ⟨refl_of R w'.tree, fun _ hs => .inl hs⟩
  | ok =>
    obtain ⟨t, ht, rfl⟩ := attempt_eq_ok hrun
    refine ⟨h _ _ ht, fun s hs => ?_⟩
    rcases List.mem_cons.mp hs with rfl | hs
    · exact .inr (refl_of R w.tree)
    · exact .inl hs

end Passes

/-- Preparing the directory of a file only makes directories on its way. -/
theorem passes_prepareDirectory (path : String) :
    Passes (FileTree.GrownAlong path) (prepareDirectory path : WatchM _) :=
  Passes.sequential.prepareDirectory Passes.isDirectory fun _ hq _ =>
    .attempt fun _ _ h => .of_makeDirectory hq h

/-! ## What is watched -/

/-- Where nothing is refused, a program on a watched tree answers and does what another one does on
the tree. -/
def Follows {α : Type} (x : WatchM α) (y : StateM FileTree α) : Prop :=
  ∀ refuses : Refusals, (∀ t o, refuses t o = none) →
    ∀ w, y w.tree = ((x refuses w).1, (x refuses w).2.tree)

namespace Follows

theorem sequential : Sequential fun α (x : WatchM α) y => Follows x y where
  pure _ _ _ _ := rfl
  bind {α β x y f g} hx hf refuses hr w := by
    change g (y w.tree).1 (y w.tree).2 = _
    rw [hx refuses hr w]
    exact hf _ refuses hr _

theorem attempt (o : FileOperation) (operation : FileTree → Except FileError FileTree)
    (between : FileTree → List FileTree) :
    Follows (attempt o operation between) (FileTree.attempt operation) := by
  intro refuses hr w
  unfold WatchM.attempt FileTree.attempt
  rw [hr]
  cases operation w.tree <;> rfl

end Follows

/-- **What is watched is a write**: it answers and leaves what the write on the tree does. -/
theorem writeAtomic_follows (path text : String) :
    Follows (writeAtomic path text) (writeAtomic path text) :=
  Follows.sequential.writeAtomic (fun _ _ _ _ => rfl) (fun _ _ _ => .attempt _ _ _)
    (.attempt _ _ _) (.attempt _ _ _) (.attempt _ _ _)

end WatchM

end ServiceSpec
