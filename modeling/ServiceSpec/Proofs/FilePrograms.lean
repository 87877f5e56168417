import Mathlib.Logic.Relation
import ServiceSpec.Files.Access

/-!
# Programs on two file systems

A program is written for every file system.  What it does on two of them is related as soon as what
their operations do is related, by a relation that ending satisfies and that one step after another
preserves.  A relation that says nothing about the second file system is a property of programs on
the first.

The directories that are made for a path are those it is in, and no others.

## Main definitions

* `Path.Ascends`: the directories that a path is in
* `Sequential`: a relation that goes on from step to step

## Main results

* `Sequential.makeDirectories`, `Sequential.prepareDirectory`, `Sequential.writeAtomic`: what is
  related where the operations are
-/

namespace ServiceSpec

/-- The second path is the first one, or that of a directory the first one is in. -/
def Path.Ascends : String → String → Prop :=
  Relation.ReflTransGen fun path directory => Path.parent? path = some directory

/-- A relation between programs on two file systems that goes on from step to step. -/
structure Sequential {m n : Type → Type} [Monad m] [Monad n]
    (R : ∀ α : Type, m α → n α → Prop) : Prop where
  pure : ∀ {α : Type} (a : α), R _ (pure a) (pure a)
  bind : ∀ {α β : Type} {x : m α} {y : n α} {f : α → m β} {g : α → n β},
    R _ x y → (∀ a, R _ (f a) (g a)) → R _ (x >>= f) (y >>= g)

namespace Sequential

open FileAccess

variable {m n : Type → Type} [Monad m] [FileAccess m] [Monad n] [FileAccess n]
  {R : ∀ α : Type, m α → n α → Prop} {path : String}

section

variable (h : Sequential R)
  (hdirectory : ∀ q, R _ (isDirectory q : m _) (isDirectory q : n _))
include h hdirectory

theorem unlessDirectory (path : String) (e : FileError) :
    R _ (unlessDirectory path e : m _) (unlessDirectory path e : n _) := by
  refine h.bind (hdirectory path) fun isDirectory => ?_
  cases isDirectory
  · exact h.pure _
  · exact h.pure _

/-- Directories are made for a path and for those that it is in. -/
theorem makeDirectoriesWith (fuel : Nat)
    (hmake : ∀ q, Path.Ascends path q → q ≠ "" →
      R _ (makeDirectory q : m _) (makeDirectory q : n _)) :
    R _ (makeDirectoriesWith fuel path : m _) (makeDirectoriesWith fuel path : n _) := by
  induction fuel generalizing path with
  | zero => exact h.pure _
  | succ fuel ih =>
    rw [FileAccess.makeDirectoriesWith, FileAccess.makeDirectoriesWith]
    by_cases hpath : path = ""
    · rw [if_pos hpath, if_pos hpath]
      exact h.pure _
    rw [if_neg hpath, if_neg hpath]
    have hmade := hmake path .refl hpath
    refine h.bind hmade fun made => ?_
    match made with
    | .ok () => exact h.pure _
    | .error e =>
      by_cases he : e = .notFound
      · subst he
        cases hparent : Path.parent? path with
        | none => exact h.pure _
        | some parent =>
          refine h.bind (ih fun q hq => hmake q (.head hparent hq)) fun above => ?_
          match above with
          | .error e => exact h.pure _
          | .ok () =>
            refine h.bind hmade fun made => ?_
            match made with
            | .ok () => exact h.pure _
            | .error e => exact h.unlessDirectory hdirectory path e
      · cases e with
        | notFound => exact absurd rfl he
        | _ => exact h.unlessDirectory hdirectory path _

theorem prepareDirectory
    (hmake : ∀ q, Path.Ascends path q → q ≠ "" →
      R _ (makeDirectory q : m _) (makeDirectory q : n _)) :
    R _ (prepareDirectory path : m _) (prepareDirectory path : n _) := by
  unfold ServiceSpec.prepareDirectory
  split
  · exact h.pure _
  · exact h.pure _
  · rename_i hparent
    refine h.bind (h.makeDirectoriesWith hdirectory _ fun q hq => ?_) fun _ => h.pure _
    exact hmake q (.head hparent hq)

theorem writeAtomic {text : String}
    (hmake : ∀ q, Path.Ascends path q → q ≠ "" →
      R _ (makeDirectory q : m _) (makeDirectory q : n _))
    (hwrite : R _ (write (temporaryPath path) text : m _) (write (temporaryPath path) text : n _))
    (hrename : R _ (rename (temporaryPath path) path : m _)
      (rename (temporaryPath path) path : n _))
    (hremove : R _ (remove (temporaryPath path) : m _) (remove (temporaryPath path) : n _)) :
    R _ (writeAtomic path text : m _) (writeAtomic path text : n _) := by
  refine h.bind (h.prepareDirectory hdirectory hmake) fun prepared => ?_
  match prepared with
  | .error e => exact h.pure _
  | .ok () =>
    refine h.bind hwrite fun written => ?_
    match written with
    | .error e => exact h.pure _
    | .ok () =>
      refine h.bind hrename fun moved => ?_
      match moved with
      | .ok () => exact h.pure _
      | .error e => exact h.bind hremove fun _ => h.pure _

end

end Sequential

end ServiceSpec
