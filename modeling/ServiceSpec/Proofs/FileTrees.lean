import Mathlib.Data.List.TakeWhile
import ServiceSpec.Files.Tree
import ServiceSpec.Proofs.Documents
import ServiceSpec.Proofs.Outcomes

/-!
# What operations on files do

An operation looks names up on its way, and fails where a directory is missing.  Where it does not
fail, the place that its path leads to can be read off the path alone, so that places of different
trees can be compared.  What an operation that succeeds has done is stated by what stands at each
place afterwards; no later argument opens the operations.

## Main definitions

* `FileTree.placeOf`: the place that a path names, whatever is there
* `FileTree.fileAt?`: the content of the file at a place
* `FileTree.KeepsDirectories`: directories stay directories, so that paths lead where they led
* `FileTree.Grown`: nothing but new directories

## Main results

* `locate_eq_ok`, `target_eq_ok`: a path leads to the place it names
* `write_eq_ok`, `rename_eq_ok`, `makeDirectory_eq_ok`: what a successful operation has done
* `KeepsDirectories.locate`: a path that leads somewhere goes on leading there
* `fileAt?_write`, `fileAt?_rename`: the files that a successful operation leaves
-/

namespace ServiceSpec

/-- The place that a name leads to, whatever is there. -/
def Place.step (p : Place) (name : List Char) : Place :=
  if Path.isIdle name then p else if name = ['.', '.'] then p.dropLast else p ++ [name]

namespace FileTree

variable {t t' t'' : FileTree} {p q : Place} {path : String}

/-- The place that a path names, whatever is there. -/
def placeOf (t : FileTree) (path : String) : Place :=
  (Path.split path.toList).foldl Place.step
    (if Path.isAbsolute path then [] else t.workingDirectory)

/-- The content of the file at a place. -/
def fileAt? (t : FileTree) (p : Place) : Option ByteArray :=
  match t.at? p with
  | some (.file content) => some content
  | _ => none

theorem fileAt?_eq_some_iff {content : ByteArray} :
    t.fileAt? p = some content ↔ t.at? p = some (.file content) := by
  unfold fileAt?
  split <;> simp_all

/-! ## What stands at a place -/

@[simp] theorem at?_nil : t.at? [] = some .directory :=
  if_pos rfl

theorem ne_nil_of_at? (h : t.at? p ≠ some .directory) : p ≠ [] := by
  rintro rfl
  exact h at?_nil

theorem at?_without (hp : p ≠ []) : (t.without p).at? q = if q = p then none else t.at? q := by
  unfold at? without
  by_cases hq : q = []
  · subst hq
    rw [if_pos rfl, if_neg hp.symm, if_pos rfl]
  rw [if_neg hq, if_neg hq]
  induction t.entries with
  | nil => simp
  | cons e rest ih =>
    rw [List.filter_cons]
    split
    · rw [lookup_cons, lookup_cons, ih]
      grind
    · rw [lookup_cons, ih]
      grind

theorem at?_place (hp : p ≠ []) (e : FileEntry) :
    (t.place p e).at? q = if q = p then some e else t.at? q := by
  have hrest := at?_without (t := t) (q := q) hp
  unfold at? at hrest ⊢
  by_cases hq : q = []
  · subst hq
    rw [if_pos rfl, if_neg hp.symm, if_pos rfl]
  · rw [if_neg hq] at hrest
    rw [if_neg hq, place, lookup_cons, hrest]
    split <;> rfl

theorem fileAt?_place_file (hp : p ≠ []) (content : ByteArray) :
    (t.place p (.file content)).fileAt? q = if q = p then some content else t.fileAt? q := by
  unfold fileAt?
  rw [at?_place hp]
  by_cases hq : q = p
  · rw [if_pos hq, if_pos hq]
  · rw [if_neg hq, if_neg hq]

theorem fileAt?_without (hp : p ≠ []) :
    (t.without p).fileAt? q = if q = p then none else t.fileAt? q := by
  unfold fileAt?
  rw [at?_without hp]
  by_cases hq : q = p
  · rw [if_pos hq, if_pos hq]
  · rw [if_neg hq, if_neg hq]

/-! ## Where a path leads -/

theorem step_eq_ok {name : List Char} (h : t.step p name = .ok q) :
    t.at? p = some .directory ∧ q = Place.step p name := by
  unfold step at h
  unfold Place.step
  split at h
  · cases h
  · cases h
  · refine ⟨‹_›, ?_⟩
    grind

theorem walk_eq_ok {names : List (List Char)} (h : t.walk p names = .ok q) :
    q = names.foldl Place.step p := by
  induction names generalizing p with
  | nil => exact (Except.ok.inj h).symm
  | cons name rest ih =>
    obtain ⟨p', hs, hrest⟩ := exists_of_bind_eq_ok h
    obtain ⟨-, rfl⟩ := step_eq_ok hs
    exact ih hrest

theorem walk_append {before after : List (List Char)} :
    t.walk p (before ++ after) = (t.walk p before).bind (t.walk · after) := by
  induction before generalizing p with
  | nil => rfl
  | cons name rest ih =>
    rw [List.cons_append, walk, walk]
    cases t.step p name with
    | error e => rfl
    | ok p' => exact ih

theorem start_eq_ok {names : List (List Char)} (h : t.start path = .ok (p, names)) :
    p = (if Path.isAbsolute path then [] else t.workingDirectory) ∧
      names = Path.split path.toList := by
  unfold start at h
  grind

/-- A path that leads somewhere leads to the place it names. -/
theorem locate_eq_ok (h : t.locate path = .ok p) : p = t.placeOf path := by
  obtain ⟨⟨start, names⟩, hs, hwalk⟩ := exists_of_bind_eq_ok h
  obtain ⟨rfl, rfl⟩ := start_eq_ok hs
  exact walk_eq_ok hwalk

/-- The names of a path: those before the last one, the last one, and nothing behind slashes. -/
theorem eq_append_of_splitLast {names before : List (List Char)} {last : List Char}
    (h : splitLast names = (before, last)) (hlast : last ≠ []) :
    ∃ slashes, names = before ++ last :: slashes ∧ ∀ s ∈ slashes, s = [] := by
  unfold splitLast at h
  obtain ⟨rfl, rfl⟩ := Prod.mk.inj h
  refine ⟨(names.reverse.takeWhile (· = [])).reverse, ?_, fun s hs => ?_⟩
  · have hne : (names.reverse.dropWhile (· = [])).reverse ≠ [] := by
      intro hnil
      rw [hnil] at hlast
      exact hlast rfl
    rw [List.getLast?_eq_some_getLast hne, Option.getD_some, List.append_cons,
      List.dropLast_concat_getLast hne, ← List.reverse_append, List.takeWhile_append_dropWhile,
      List.reverse_reverse]
  · simpa using List.mem_takeWhile_imp (List.mem_reverse.mp hs)

/-- Names without text lead nowhere. -/
theorem foldl_step_of_empty {names : List (List Char)} (h : ∀ s ∈ names, s = []) :
    names.foldl Place.step p = p := by
  induction names with
  | nil => rfl
  | cons s rest ih =>
    obtain ⟨rfl, hrest⟩ := List.forall_mem_cons.mp h
    exact ih hrest

/-- The name at the end of a path: the directory it is looked up in is found by the names before
it, and only slashes follow it. -/
theorem start_of_target {e : Target} {name : List Char} (h : t.target path = .ok e)
    (hname : e.name = some name) :
    ∃ p before slashes, t.start path = .ok (p, before ++ name :: slashes) ∧
      (∀ s ∈ slashes, s = []) ∧ (e.hasSlash = false → slashes = []) ∧
      t.walk p before = .ok e.directory ∧
      t.step e.directory name = .ok (e.directory ++ [name]) := by
  obtain ⟨⟨p, names⟩, hs, h⟩ := exists_of_bind_eq_ok h
  obtain ⟨before, last, hl⟩ : ∃ before last, splitLast names = (before, last) := ⟨_, _, rfl⟩
  simp only [hl] at h
  obtain ⟨d, hw, h⟩ := exists_of_bind_eq_ok h
  split at h
  · cases h
  · cases h
  rename_i hd
  split at h
  · cases h
    cases hname
  rename_i hidle
  split at h
  · cases h
  rename_i hlong
  cases h
  cases hname
  have hlast : name ≠ [] := by
    rintro rfl
    simp [Path.isIdle] at hidle
  obtain ⟨slashes, rfl, hslashes⟩ := eq_append_of_splitLast hl hlast
  refine ⟨p, before, slashes, hs, hslashes, ?_, hw, ?_⟩
  · intro hnone
    by_contra hne
    have hlast := List.getLast?_eq_some_getLast hne
    rw [hslashes _ (List.getLast_mem hne)] at hlast
    simp [List.getLast?_cons, hlast] at hnone
  · rw [step, hd]
    grind

/-- A path whose last name is looked up names a place in the directory it is looked up in, and leads
there as soon as no slash is at its end. -/
theorem target_eq_ok {e : Target} {name : List Char} (h : t.target path = .ok e)
    (hname : e.name = some name) :
    e.directory ++ [name] = t.placeOf path ∧
      (e.hasSlash = false → t.locate path = .ok (t.placeOf path)) := by
  obtain ⟨p, before, slashes, hstart, hslashes, hnone, hwalk, hstep⟩ := start_of_target h hname
  have hplace : e.directory ++ [name] = t.placeOf path := by
    obtain ⟨hp, hnames⟩ := start_eq_ok hstart
    rw [placeOf, ← hp, ← hnames, List.foldl_append, List.foldl_cons, foldl_step_of_empty hslashes,
      ← walk_eq_ok hwalk]
    exact (step_eq_ok hstep).2
  refine ⟨hplace, fun hslash => ?_⟩
  rw [locate, hstart, hnone hslash, ← hplace]
  change t.walk p (before ++ [name]) = _
  rw [walk_append, hwalk]
  change (t.step e.directory name).bind _ = _
  rw [hstep]
  rfl

/-! ## What an operation has done -/

/-- A write that succeeds has put the file where its path leads, over no directory. -/
theorem write_eq_ok {content : String} (h : t.write path content = .ok t') :
    t.locate path = .ok (t.placeOf path) ∧ t.at? (t.placeOf path) ≠ some .directory ∧
      t' = t.place (t.placeOf path) (.file content.toUTF8) := by
  obtain ⟨e, he, h⟩ := exists_of_bind_eq_ok h
  cases hname : e.name with
  | none =>
    rw [hname] at h
    cases h
  | some name =>
    obtain ⟨hplace, hlocate⟩ := target_eq_ok he hname
    simp only [hname, hplace] at h
    split at h <;> cases h
    rename_i hslash hdirectory
    exact ⟨hlocate hslash, hdirectory, rfl⟩

/-- A directory that could be made is at a place where nothing was. -/
theorem makeDirectory_eq_ok (h : t.makeDirectory path = .ok t') :
    t.at? (t.placeOf path) = none ∧ t' = t.place (t.placeOf path) .directory := by
  obtain ⟨e, he, h⟩ := exists_of_bind_eq_ok h
  cases hname : e.name with
  | none =>
    rw [hname] at h
    cases h
  | some name =>
    obtain ⟨hplace, -⟩ := target_eq_ok he hname
    simp only [hname, hplace] at h
    split at h
    · cases h
    · rename_i hfree
      cases h
      exact ⟨by simpa using hfree, rfl⟩

/-- A file that could be moved is where its target leads, over no directory. -/
theorem rename_eq_ok {source target : String} (h : t.rename source target = .ok t') :
    ∃ content, t.fileAt? (t.placeOf source) = some content ∧
      t.locate target = .ok (t.placeOf target) ∧
      t.at? (t.placeOf target) ≠ some .directory ∧
      t' = if t.placeOf source = t.placeOf target then t
        else (t.without (t.placeOf source)).place (t.placeOf target) (.file content) := by
  obtain ⟨s, hs, h⟩ := exists_of_bind_eq_ok h
  obtain ⟨e, he, h⟩ := exists_of_bind_eq_ok h
  split at h
  · rename_i sourceName name hsourceName hname
    obtain ⟨hsource, -⟩ := target_eq_ok hs hsourceName
    obtain ⟨htarget, hlocate⟩ := target_eq_ok he hname
    simp only [hsource, htarget] at h
    obtain ⟨content, hcontent⟩ : ∃ content, t.at? (t.placeOf source) = some (.file content) := by
      cases hat : t.at? (t.placeOf source) with
      | none =>
        rw [hat] at h
        cases h
      | some entry =>
        cases entry with
        | file content => exact ⟨content, rfl⟩
        | directory =>
          rw [hat] at h
          cases h
    simp only [hcontent] at h
    split at h
    · cases h
    rename_i hslash
    refine ⟨content, fileAt?_eq_some_iff.mpr hcontent, hlocate (by simp_all), ?_⟩
    split at h
    · cases h
    rename_i hdirectory
    refine ⟨hdirectory, ?_⟩
    split at h <;> cases h
    · rw [if_pos ‹_›]
    · rw [if_neg ‹_›]
  · cases h

/-- What is read is the file at the place that the path leads to. -/
theorem read_eq_ok_iff {content : ByteArray} :
    t.read path = .ok content ↔ ∃ p, t.locate path = .ok p ∧ t.fileAt? p = some content := by
  constructor
  · intro h
    obtain ⟨p, hp, h⟩ := exists_of_bind_eq_ok h
    refine ⟨p, hp, fileAt?_eq_some_iff.mpr ?_⟩
    split at h <;> cases h
    assumption
  · rintro ⟨p, hp, hfile⟩
    rw [fileAt?_eq_some_iff] at hfile
    simp only [read, hp, bind, Except.bind, hfile]
    rfl

/-! ## Directories that stay -/

/-- The directories of one tree are directories of the other, and paths start at the same place. -/
structure KeepsDirectories (t t' : FileTree) : Prop where
  workingDirectory : t'.workingDirectory = t.workingDirectory
  directories : ∀ p, t.at? p = some .directory → t'.at? p = some .directory

namespace KeepsDirectories

protected theorem refl (t : FileTree) : t.KeepsDirectories t :=
  ⟨rfl, fun _ h => h⟩

protected theorem trans (h : t.KeepsDirectories t') (h' : t'.KeepsDirectories t'') :
    t.KeepsDirectories t'' :=
  ⟨h'.workingDirectory.trans h.workingDirectory, fun p hp => h'.directories p (h.directories p hp)⟩

theorem place (h : t.at? p ≠ some .directory) (e : FileEntry) : t.KeepsDirectories (t.place p e) :=
  ⟨rfl, fun q hq => by
    rw [at?_place (ne_nil_of_at? h), if_neg (by rintro rfl; exact h hq), hq]⟩

theorem without (h : t.at? p ≠ some .directory) : t.KeepsDirectories (t.without p) :=
  ⟨rfl, fun q hq => by
    rw [at?_without (ne_nil_of_at? h), if_neg (by rintro rfl; exact h hq), hq]⟩

variable (h : t.KeepsDirectories t')
include h

theorem placeOf (path : String) : t'.placeOf path = t.placeOf path := by
  rw [FileTree.placeOf, FileTree.placeOf, h.workingDirectory]

theorem step {name : List Char} (hs : t.step p name = .ok q) : t'.step p name = .ok q := by
  have hp := (step_eq_ok hs).1
  rw [← hs, FileTree.step, FileTree.step, hp, h.directories p hp]

theorem walk {names : List (List Char)} (hw : t.walk p names = .ok q) :
    t'.walk p names = .ok q := by
  induction names generalizing p with
  | nil => exact hw
  | cons name rest ih =>
    obtain ⟨p', hs, hrest⟩ := exists_of_bind_eq_ok hw
    rw [FileTree.walk, h.step hs]
    exact ih hrest

theorem start (path : String) : t'.start path = t.start path := by
  rw [FileTree.start, FileTree.start, h.workingDirectory]

/-- A path that leads somewhere goes on leading there. -/
theorem locate (hl : t.locate path = .ok p) : t'.locate path = .ok p := by
  obtain ⟨⟨q, names⟩, hs, hw⟩ := exists_of_bind_eq_ok hl
  rw [FileTree.locate, h.start, hs]
  exact h.walk hw

/-- The end of a path stays where it is. -/
theorem target {e : Target} (ht : t.target path = .ok e) : t'.target path = .ok e := by
  obtain ⟨⟨q, names⟩, hs, ht⟩ := exists_of_bind_eq_ok ht
  obtain ⟨d, hw, ht⟩ := exists_of_bind_eq_ok ht
  split at ht
  · cases ht
  · cases ht
  rename_i hd
  rw [FileTree.target, h.start, hs]
  change (t'.walk q _).bind _ = _
  rw [h.walk hw]
  simp only [Except.bind, h.directories d hd]
  exact ht

end KeepsDirectories

/-! ## The files that an operation leaves -/

theorem keepsDirectories_write {content : String} (h : t.write path content = .ok t') :
    t.KeepsDirectories t' := by
  obtain ⟨-, hfree, rfl⟩ := write_eq_ok h
  exact .place hfree _

theorem fileAt?_write {content : String} (h : t.write path content = .ok t') :
    t'.fileAt? p = if p = t.placeOf path then some content.toUTF8 else t.fileAt? p := by
  obtain ⟨-, hfree, rfl⟩ := write_eq_ok h
  exact fileAt?_place_file (ne_nil_of_at? hfree) _

/-- A file that is moved goes from one place to another in two steps, neither of which touches a
directory. -/
theorem keepsDirectories_rename {source target : String} (h : t.rename source target = .ok t') :
    t.KeepsDirectories t' := by
  obtain ⟨content, hcontent, -, hfree, rfl⟩ := rename_eq_ok h
  split_ifs with heq
  · exact .refl t
  · have hsource : t.at? (t.placeOf source) ≠ some .directory := by
      simp [fileAt?_eq_some_iff.mp hcontent]
    refine (KeepsDirectories.without hsource).trans (.place ?_ _)
    rwa [at?_without (ne_nil_of_at? hsource), if_neg (Ne.symm heq)]

theorem fileAt?_rename {source target : String} (h : t.rename source target = .ok t') :
    t'.fileAt? p =
      if p = t.placeOf target then t.fileAt? (t.placeOf source)
      else if p = t.placeOf source then none
      else t.fileAt? p := by
  obtain ⟨content, hcontent, -, hfree, rfl⟩ := rename_eq_ok h
  have hsource : t.at? (t.placeOf source) ≠ some .directory := by
    simp [fileAt?_eq_some_iff.mp hcontent]
  by_cases heq : t.placeOf source = t.placeOf target
  · rw [if_pos heq, heq]
    split_ifs with hp
    · rw [hp]
    · rfl
  · rw [if_neg heq, fileAt?_place_file (ne_nil_of_at? hfree),
      fileAt?_without (ne_nil_of_at? hsource), hcontent]

/-- A tree with more directories, and otherwise the same. -/
structure Grown (t t' : FileTree) : Prop extends t.KeepsDirectories t' where
  files : ∀ p, t'.fileAt? p = t.fileAt? p

namespace Grown

protected theorem refl (t : FileTree) : t.Grown t :=
  ⟨.refl t, fun _ => rfl⟩

protected theorem trans (h : t.Grown t') (h' : t'.Grown t'') : t.Grown t'' :=
  ⟨h.toKeepsDirectories.trans h'.toKeepsDirectories, fun p => (h'.files p).trans (h.files p)⟩

theorem of_makeDirectory (h : t.makeDirectory path = .ok t') : t.Grown t' := by
  obtain ⟨hfree, rfl⟩ := makeDirectory_eq_ok h
  have hne : t.at? (t.placeOf path) ≠ some .directory := by simp [hfree]
  refine ⟨.place hne _, fun p => ?_⟩
  unfold fileAt?
  rw [at?_place (ne_nil_of_at? hne)]
  split_ifs with hp
  · rw [hp, hfree]
  · rfl

end Grown

end FileTree

end ServiceSpec
