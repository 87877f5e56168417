import Mathlib.Data.List.Infix
import ServiceSpec.Proofs.FilePrograms
import ServiceSpec.Proofs.FileTrees

/-!
# The directories that a path is in

The segments of the path of the parent directory are the first segments of the path.  A path leads
past the places that its first segments name, so the places of all the directories it is in are on
its way.

## Main definitions

* `FileTree.way`: the places that a path leads past
* `FileTree.GrownAlong`: nothing but new directories on the way of a path

## Main results

* `Text.pieces_joined`: texts without separators are the pieces of the text they make up
* `Path.split_of_parent?`: the segments of the path of the parent directory
* `FileTree.placeOf_mem_way_of_ascends`: the directories of a path are on its way
-/

namespace ServiceSpec

namespace Text

variable {separator : Char} {s cs : List Char} {segments : List (List Char)}

theorem pieces_cons_of_ne {c : Char} {rest first : List Char} {others : List (List Char)}
    (hc : c ≠ separator) (h : pieces separator rest = first :: others) :
    pieces separator (c :: rest) = (c :: first) :: others := by
  rw [pieces, if_neg hc, h]

/-- No separator is in a piece. -/
theorem notMem_of_mem_pieces (h : s ∈ pieces separator cs) : separator ∉ s := by
  induction cs generalizing s with
  | nil =>
    obtain rfl := List.mem_singleton.mp h
    simp
  | cons c rest ih =>
    by_cases hc : c = separator
    · rw [pieces, if_pos hc] at h
      rcases List.mem_cons.mp h with rfl | h
      · simp
      · exact ih h
    · obtain ⟨first, others, hp⟩ := List.exists_cons_of_ne_nil (pieces_ne_nil separator rest)
      rw [pieces_cons_of_ne hc hp] at h
      rw [hp] at ih
      rcases List.mem_cons.mp h with rfl | h
      · exact List.not_mem_cons_of_ne_of_not_mem (Ne.symm hc) (ih (List.mem_cons_self ..))
      · exact ih (List.mem_cons_of_mem _ h)

theorem pieces_of_notMem (h : separator ∉ s) : pieces separator s = [s] := by
  induction s with
  | nil => rfl
  | cons c rest ih =>
    obtain ⟨hc, hrest⟩ := not_or.mp (mt List.mem_cons.mpr h)
    exact pieces_cons_of_ne (Ne.symm hc) (ih hrest)

theorem pieces_append_separator (h : separator ∉ s) :
    pieces separator (s ++ separator :: cs) = s :: pieces separator cs := by
  induction s with
  | nil => rw [List.nil_append, pieces, if_pos rfl]
  | cons c rest ih =>
    obtain ⟨hc, hrest⟩ := not_or.mp (mt List.mem_cons.mpr h)
    exact pieces_cons_of_ne (Ne.symm hc) (ih hrest)

/-- **Texts without separators are the pieces of the text they make up.** -/
theorem pieces_joined (hne : segments ≠ []) (h : ∀ s ∈ segments, separator ∉ s) :
    pieces separator (joined separator segments) = segments := by
  induction segments with
  | nil => exact absurd rfl hne
  | cons s rest ih =>
    obtain ⟨hs, hrest⟩ := List.forall_mem_cons.mp h
    cases rest with
    | nil => exact pieces_of_notMem hs
    | cons s' rest =>
      rw [joined, pieces_append_separator hs, ih (by simp) hrest]
      simp

end Text

/-! ## The parent directory -/

namespace Path

variable {path directory : String}

theorem dropIdle_suffix (segments : List (List Char)) : dropIdle segments <:+ segments := by
  induction segments using dropIdle.induct with
  | case1 => exact List.suffix_rfl
  | case2 => exact List.suffix_rfl
  | case3 s rest hne hs ih =>
    rw [dropIdle, if_pos hs]
    · exact ih.trans (List.suffix_cons ..)
    · exact hne
  | case4 s rest hne hs =>
    rw [dropIdle, if_neg hs]
    exact hne

theorem dropIdle_ne_nil {segments : List (List Char)} (h : segments ≠ []) :
    dropIdle segments ≠ [] := by
  induction segments using dropIdle.induct <;> simp_all [dropIdle]

/-- A path starts at the root if a separator follows an empty segment at its start. -/
theorem isAbsolute_iff :
    isAbsolute path ↔ ∃ s rest, split path.toList = [] :: s :: rest := by
  rw [isAbsolute, split]
  cases path.toList with
  | nil => simp [Text.pieces]
  | cons c cs =>
    obtain ⟨first, others, hp⟩ := List.exists_cons_of_ne_nil (Text.pieces_ne_nil '/' cs)
    by_cases hc : c = '/'
    · simp [Text.pieces, hc, hp]
    · simp [Text.pieces_cons_of_ne hc hp, hc]

/-- Paths that start with the same segments start at the same place, if more than the start is the
same. -/
theorem isAbsolute_of_firstSegments (hne : split directory.toList ≠ [[]])
    (h : split directory.toList <+: split path.toList) :
    isAbsolute directory = isAbsolute path := by
  obtain ⟨others, h⟩ := h
  rw [Bool.eq_iff_iff, isAbsolute_iff, isAbsolute_iff, ← h]
  match hs : split directory.toList with
  | [] => exact absurd hs (Text.pieces_ne_nil '/' directory.toList)
  | [s] =>
    rw [hs] at hne h
    simp_all [← h]
  | s :: s' :: rest => simp

theorem split_ofList_joined {segments : List (List Char)} (hne : segments ≠ [])
    (h : segments <+: split path.toList) :
    split (String.ofList (Text.joined '/' segments)).toList = segments := by
  rw [String.toList_ofList]
  exact Text.pieces_joined hne fun s hs => Text.notMem_of_mem_pieces (h.subset hs)

/-- The segments of the path of the parent directory: the first ones of the path, or empty ones
where only the start of the path is left. -/
theorem split_of_parent? (h : parent? path = some directory) :
    isAbsolute directory = isAbsolute path ∧
      ((∀ s ∈ split directory.toList, s = []) ∨
        split directory.toList <+: split path.toList) := by
  have hsegments : (segmentsReversed path).reverse <+: split path.toList := by
    have := dropIdle_suffix (split path.toList).reverse
    rwa [← List.reverse_prefix, List.reverse_reverse] at this
  unfold parent? at h
  split at h
  · cases h
  · cases h
  · rename_i s hs heq
    cases h
    obtain ⟨others, hsegments⟩ := heq ▸ hsegments
    refine ⟨?_, .inl (by decide)⟩
    have hs : s ≠ [] := by
      rintro rfl
      exact hs rfl
    rw [Bool.eq_iff_iff, isAbsolute_iff, isAbsolute_iff, ← hsegments]
    simp [split, Text.pieces, hs]
  · rename_i last before _ hbefore heq
    rw [heq, List.reverse_cons] at hsegments
    have hprefix : (dropIdle before).reverse <+: before.reverse :=
      List.reverse_prefix.mpr (dropIdle_suffix before)
    split at h
    · rename_i heq
      cases h
      rw [heq, List.reverse_singleton] at hprefix
      obtain ⟨between, hbetween⟩ := hprefix
      obtain ⟨others, hothers⟩ := hsegments
      have hmore : between ++ last :: others ≠ [] := by simp
      obtain ⟨s, rest, hrest⟩ := List.exists_cons_of_ne_nil hmore
      have habsolute : isAbsolute path = true :=
        isAbsolute_iff.mpr ⟨s, rest, by simp [← hothers, ← hbetween, ← hrest]⟩
      exact ⟨habsolute.symm ▸ rfl, .inl (by decide)⟩
    · rename_i hroot
      cases h
      have hprefix := hprefix.trans ((List.prefix_append ..).trans hsegments)
      have hsplit := split_ofList_joined (by simpa using dropIdle_ne_nil hbefore) hprefix
      rw [← hsplit] at hprefix
      refine ⟨isAbsolute_of_firstSegments (fun hstart => hroot ?_) hprefix, .inr hprefix⟩
      rw [hsplit] at hstart
      simpa using congrArg List.reverse hstart

end Path

namespace FileTree

variable {t : FileTree} {path directory : String}

/-- The places that a path leads past, from where it starts to the one it names. -/
def way (t : FileTree) (path : String) : List Place :=
  (Path.split path.toList).inits.map fun names =>
    names.foldl Place.step (if Path.isAbsolute path then [] else t.workingDirectory)

theorem mem_way {p : Place} : p ∈ t.way path ↔ ∃ names, names <+: Path.split path.toList ∧
    names.foldl Place.step (if Path.isAbsolute path then [] else t.workingDirectory) = p := by
  simp [way, List.mem_inits]

theorem placeOf_mem_way (t : FileTree) (path : String) : t.placeOf path ∈ t.way path :=
  mem_way.mpr ⟨_, List.prefix_rfl, rfl⟩

theorem way_subset_of_parent? (h : Path.parent? path = some directory) :
    t.way directory ⊆ t.way path := by
  obtain ⟨habsolute, hsplit⟩ := Path.split_of_parent? h
  intro p hp
  obtain ⟨names, hnames, rfl⟩ := mem_way.mp hp
  rw [habsolute]
  rcases hsplit with hempty | hprefix
  · rw [foldl_step_of_empty fun s hs => hempty s (hnames.subset hs)]
    exact mem_way.mpr ⟨[], List.nil_prefix, rfl⟩
  · exact mem_way.mpr ⟨names, hnames.trans hprefix, rfl⟩

/-- **The directories that a path is in are on its way.** -/
theorem placeOf_mem_way_of_ascends (h : Path.Ascends path directory) :
    t.placeOf directory ∈ t.way path := by
  induction h using Relation.ReflTransGen.head_induction_on with
  | refl => exact t.placeOf_mem_way directory
  | head h _ ih => exact way_subset_of_parent? h ih

/-! ## Making directories -/

/-- A tree with more directories on the way of a path, and otherwise the same. -/
structure GrownAlong (path : String) (t t' : FileTree) : Prop extends t.Grown t' where
  entries : ∀ p, t'.at? p = t.at? p ∨
    t.at? p = none ∧ t'.at? p = some .directory ∧ p ∈ t.way path

namespace GrownAlong

variable {t' t'' : FileTree}

theorem way_eq (h : t.KeepsDirectories t') : t'.way path = t.way path := by
  rw [way, way, h.workingDirectory]

protected theorem refl (t : FileTree) : GrownAlong path t t :=
  ⟨.refl t, fun _ => .inl rfl⟩

protected theorem trans (h : GrownAlong path t t') (h' : GrownAlong path t' t'') :
    GrownAlong path t t'' := by
  refine ⟨h.toGrown.trans h'.toGrown, fun p => ?_⟩
  have hlast := h'.entries p
  rw [way_eq h.toKeepsDirectories] at hlast
  rcases h.entries p with heq | ⟨hnone, hmade, hway⟩
  · rwa [heq] at hlast
  · exact .inr ⟨hnone, h'.directories p hmade, hway⟩

instance : IsPreorder FileTree (GrownAlong path) where
  refl := .refl
  trans _ _ _ := .trans

theorem of_makeDirectory (hd : Path.Ascends path directory)
    (h : t.makeDirectory directory = .ok t') : GrownAlong path t t' := by
  refine ⟨.of_makeDirectory h, fun p => ?_⟩
  obtain ⟨hfree, rfl⟩ := makeDirectory_eq_ok h
  have hne : t.at? (t.placeOf directory) ≠ some .directory := by simp [hfree]
  rw [at?_place (ne_nil_of_at? hne)]
  split_ifs with hp
  · subst hp
    exact .inr ⟨hfree, rfl, placeOf_mem_way_of_ascends hd⟩
  · exact .inl rfl

end GrownAlong

end FileTree

end ServiceSpec
