import Mathlib.Order.Defs.Unbundled
import ServiceSpec.Proofs.FilePrograms
import ServiceSpec.Proofs.FileTrees

/-!
# Writing beside a file

A file is written under its temporary path and then moved over the old one.  What a successful
write leaves is a tree with the new file, without anything under the temporary path, and otherwise
with the files it had: making the directories on the way changes no file.

The temporary path is an ordinary path.  A file that was there before is gone afterwards.

## Main definitions

* `FileTree.Moves`: what an action does to a tree, whatever it answers
* `FileTree.Written`: a file has been written, with what that costs

## Main results

* `moves_prepareDirectory`: preparing a directory only makes directories
* `writeAtomic_eq_ok`: a successful write has written its file
-/

namespace ServiceSpec

namespace FileTree

variable {t t' : FileTree} {path text : String}

/-! ## What actions do, whatever they answer -/

/-- An action leaves a tree that is related in this way to the one it is done on. -/
def Moves (R : FileTree → FileTree → Prop) {α : Type} (x : StateM FileTree α) : Prop :=
  ∀ t, R t (x t).2

namespace Moves

variable {R : FileTree → FileTree → Prop} [IsPreorder FileTree R] {α β : Type}

theorem pure (a : α) : Moves R (pure a : StateM FileTree α) :=
  fun t => refl_of R t

theorem bind {x : StateM FileTree α} {f : α → StateM FileTree β} (hx : Moves R x)
    (hf : ∀ a, Moves R (f a)) : Moves R (x >>= f) :=
  fun t => trans_of R (hx t) (hf (x t).1 (x t).2)

theorem sequential : Sequential fun α (x _ : StateM FileTree α) => Moves R x :=
  ⟨pure, bind⟩

theorem read (path : String) : Moves R (FileAccess.read path : StateM FileTree _) :=
  fun t => refl_of R t

theorem isDirectory (path : String) : Moves R (FileAccess.isDirectory path : StateM FileTree _) :=
  fun t => refl_of R t

end Moves

/-- What is done after an action is done on the tree that it leaves. -/
theorem exists_of_run_bind_eq {α β : Type} {x : StateM FileTree α} {f : α → StateM FileTree β}
    {b : β} (h : (x >>= f) t = (b, t')) : ∃ a t₁, x t = (a, t₁) ∧ f a t₁ = (b, t') :=
  ⟨_, _, rfl, h⟩

/-- An operation that succeeds answers nothing and leaves its tree. -/
theorem attempt_eq_ok {operation : FileTree → Except FileError FileTree}
    (h : attempt operation t = (.ok (), t')) : operation t = .ok t' := by
  unfold attempt at h
  split at h <;> cases h
  assumption

/-! ## Directories on the way -/

instance : IsPreorder FileTree Grown where
  refl := .refl
  trans _ _ _ := .trans

theorem moves_makeDirectory (path : String) :
    Moves Grown (FileAccess.makeDirectory path : StateM FileTree _) := by
  intro t
  change t.Grown (attempt (makeDirectory · path) t).2
  unfold attempt
  cases h : t.makeDirectory path with
  | error e => simpa [h] using Grown.refl t
  | ok t' => simpa [h] using Grown.of_makeDirectory h

/-- Preparing the directory of a file only makes directories. -/
theorem moves_prepareDirectory (path : String) :
    Moves Grown (prepareDirectory path : StateM FileTree _) :=
  Moves.sequential.prepareDirectory Moves.isDirectory fun q _ _ => moves_makeDirectory q

/-! ## The write -/

/-- A file has been written: its path leads to it, nothing is under its temporary path, and every
other file is as it was. -/
structure Written (t : FileTree) (path text : String) (t' : FileTree) : Prop
    extends t.KeepsDirectories t' where
  located : t'.locate path = .ok (t.placeOf path)
  files : ∀ p, t'.fileAt? p =
    if p = t.placeOf path then some text.toUTF8
    else if p = t.placeOf (temporaryPath path) then none
    else t.fileAt? p

/-- The two steps that are left once the directory is there: what is moved is what has just been
written. -/
theorem written_of_write_of_rename {t₁ : FileTree} (hw : t.write (temporaryPath path) text = .ok t₁)
    (hr : t₁.rename (temporaryPath path) path = .ok t') : t.Written path text t' := by
  have hkeeps := keepsDirectories_write hw
  obtain ⟨-, -, hlocate, -, -⟩ := rename_eq_ok hr
  refine ⟨hkeeps.trans (keepsDirectories_rename hr), ?_, fun p => ?_⟩
  · rw [(keepsDirectories_rename hr).locate hlocate, hkeeps.placeOf]
  · rw [fileAt?_rename hr, hkeeps.placeOf, hkeeps.placeOf, fileAt?_write hw, if_pos rfl,
      fileAt?_write hw]
    split_ifs <;> rfl

/-- The directories that were made first change neither places nor files. -/
theorem Grown.written {t₁ : FileTree} (h : t.Grown t₁) (hw : t₁.Written path text t') :
    t.Written path text t' := by
  refine ⟨h.toKeepsDirectories.trans hw.toKeepsDirectories, ?_, fun p => ?_⟩
  · rw [hw.located, h.placeOf]
  · rw [hw.files, h.placeOf, h.placeOf, h.files]

/-- **A write that succeeds** has written its file, at the cost of what was under the temporary
path. -/
theorem writeAtomic_eq_ok (h : (writeAtomic path text : StateM FileTree _) t = (.ok (), t')) :
    t.Written path text t' := by
  obtain ⟨prepared, t₁, hp, h⟩ := exists_of_run_bind_eq h
  have hgrown : t.Grown t₁ := by
    have := moves_prepareDirectory path t
    rwa [hp] at this
  cases prepared with
  | error e => cases h
  | ok =>
  obtain ⟨written, t₂, hw, h⟩ := exists_of_run_bind_eq h
  cases written with
  | error e => cases h
  | ok =>
  obtain ⟨moved, t₃, hr, h⟩ := exists_of_run_bind_eq h
  cases moved with
  | error e => cases h
  | ok =>
  cases h
  exact hgrown.written (written_of_write_of_rename (attempt_eq_ok hw) (attempt_eq_ok hr))

end FileTree

end ServiceSpec
