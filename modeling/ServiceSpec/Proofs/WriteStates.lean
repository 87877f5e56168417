import ServiceSpec.Proofs.WatchedTrees

/-!
# The states of a write

The content of a file is written beside the file, and the temporary file then takes its place.  So
the file itself is at any time as it was or has its whole new content, whatever fails, and no file
is touched but the two.  A write that fails takes the temporary file away again.

The directories that are missing on the way of the path stay, even if the write fails.  Usually the
temporary path leads to none of them.  But a path may lead up again from where it has been, and then
one of its directories can have the name of the temporary file: the write fails, and what was not
there is a directory.

## Main definitions

* `FileTree.Midway`: a state on the way of a write
* `FileTree.Abandoned`: what a write leaves that has failed

## Main results

* `FileTree.placeOf_temporaryPath_ne`: the temporary file is beside its file
* `FileTree.remove_of_write`: what has been written can be removed
* `FileTree.writeAtomic_atomic`: all states of a write, and what it leaves
-/

namespace ServiceSpec

/-! ## The temporary path -/

/-- A text without separators at the end of another one goes on with its last piece. -/
theorem Text.exists_pieces_append {separator : Char} {s : List Char} (cs : List Char)
    (hs : separator ∉ s) : ∃ before last, pieces separator cs = before ++ [last] ∧
      pieces separator (cs ++ s) = before ++ [last ++ s] := by
  induction cs with
  | nil => exact ⟨[], [], rfl, pieces_of_notMem hs⟩
  | cons c rest ih =>
    obtain ⟨before, last, hrest, happend⟩ := ih
    by_cases hc : c = separator
    · refine ⟨[] :: before, last, ?_, ?_⟩
      · rw [pieces, if_pos hc, hrest, List.cons_append]
      · rw [List.cons_append, pieces, if_pos hc, happend, List.cons_append]
    · cases before with
      | nil => exact ⟨[], c :: last, pieces_cons_of_ne hc hrest, pieces_cons_of_ne hc happend⟩
      | cons first others =>
        exact ⟨(c :: first) :: others, last, pieces_cons_of_ne hc hrest,
          pieces_cons_of_ne hc happend⟩

theorem Path.isAbsolute_temporaryPath (path : String) :
    isAbsolute (temporaryPath path) = isAbsolute path := by
  rw [isAbsolute, isAbsolute, temporaryPath, String.toList_append]
  cases path.toList with
  | nil => rfl
  | cons c rest => rfl

namespace FileTree

variable {t t₁ t₂ s : FileTree} {path text : String} {p : Place} {refuses : Refusals}

/-- A name with the suffix of temporary paths is a name. -/
theorem step_temporary (name : List Char) :
    Place.step p (name ++ ".tmp".toList) = p ++ [name ++ ".tmp".toList] := by
  have hidle : ¬ Path.isIdle (name ++ ".tmp".toList) := by
    simp [Path.isIdle, List.append_eq_cons_iff]
  have hup : name ++ ".tmp".toList ≠ ['.', '.'] := by
    intro h
    simpa using congrArg List.length h
  rw [Place.step, if_neg hidle, if_neg hup]

/-- **The temporary file is beside its file.** -/
theorem placeOf_temporaryPath_ne (t : FileTree) (path : String) :
    t.placeOf (temporaryPath path) ≠ t.placeOf path := by
  obtain ⟨before, last, hpath, htemporary⟩ :=
    Text.exists_pieces_append (s := ".tmp".toList) path.toList (by decide : '/' ∉ _)
  rw [placeOf, placeOf, Path.isAbsolute_temporaryPath, Path.split, Path.split, temporaryPath,
    String.toList_append, hpath, htemporary, List.foldl_concat, List.foldl_concat, step_temporary]
  generalize before.foldl Place.step _ = directory
  rw [Place.step]
  split_ifs
  · simp
  · intro h
    have := congrArg List.length h
    simp only [List.length_append, List.length_singleton, List.length_dropLast] at this
    omega
  · simp

/-- What has been written can be removed. -/
theorem remove_of_write (h : t.write path text = .ok t₁) :
    t₁.remove path = .ok (t₁.without (t.placeOf path)) := by
  have hkeeps := keepsDirectories_write h
  obtain ⟨-, hfree, rfl⟩ := write_eq_ok h
  obtain ⟨e, he, h⟩ := exists_of_bind_eq_ok h
  cases hname : e.name with
  | none =>
    rw [hname] at h
    cases h
  | some name =>
    obtain ⟨hplace, -⟩ := target_eq_ok he hname
    simp only [hname, hplace] at h
    split at h <;> cases h
    rename_i hslash _
    simp only [remove, hkeeps.target he, bind, Except.bind, hname, hplace,
      at?_place (ne_nil_of_at? hfree), if_pos, hslash]
    rfl

/-! ## On the way -/

/-- A state on the way of a write: the file is as it was or has its whole new content, and no other
file is touched but the temporary one. -/
structure Midway (t : FileTree) (path text : String) (s : FileTree) : Prop
    extends t.KeepsDirectories s where
  whole : s.fileAt? (t.placeOf path) = t.fileAt? (t.placeOf path) ∨
    s.fileAt? (t.placeOf path) = some text.toUTF8
  others : ∀ p, p ≠ t.placeOf path → p ≠ t.placeOf (temporaryPath path) →
    s.fileAt? p = t.fileAt? p

/-- What a write leaves that has failed: the files it has found but for the temporary one, which is
not there any more or has not been touched.  Or the temporary path leads to a directory that has
been made on the way of the path, or the file system has refused to remove the temporary file. -/
structure Abandoned (refuses : Refusals) (t : FileTree) (path text : String) (s : FileTree) :
    Prop where
  files : ∀ p, p ≠ t.placeOf (temporaryPath path) → s.fileAt? p = t.fileAt? p
  temporary : s.at? (t.placeOf (temporaryPath path)) = none ∨
    s.at? (t.placeOf (temporaryPath path)) = t.at? (t.placeOf (temporaryPath path)) ∨
    (t.at? (t.placeOf (temporaryPath path)) = none ∧
      t.placeOf (temporaryPath path) ∈ t.way path ∧
      s.at? (t.placeOf (temporaryPath path)) = some .directory) ∨
    (s.at? (t.placeOf (temporaryPath path)) = some (.file text.toUTF8) ∧
      (refuses s (.remove (temporaryPath path))).isSome)

theorem Grown.midway (h : t.Grown s) : t.Midway path text s :=
  ⟨h.toKeepsDirectories, .inl (h.files _), fun p _ _ => h.files p⟩

theorem GrownAlong.abandoned (h : GrownAlong path t s) : Abandoned refuses t path text s := by
  refine ⟨fun p _ => h.files p, ?_⟩
  rcases h.entries (t.placeOf (temporaryPath path)) with heq | ⟨hnone, hmade, hway⟩
  · exact .inr (.inl heq)
  · exact .inr (.inr (.inl ⟨hnone, hway, hmade⟩))

theorem Written.read_eq_ok (h : t.Written path text s) : s.read path = .ok text.toUTF8 := by
  rw [read_eq_ok_iff]
  exact ⟨_, h.located, by rw [h.files, if_pos rfl]⟩

theorem Written.midway (h : t.Written path text s) : t.Midway path text s := by
  refine ⟨h.toKeepsDirectories, .inr ?_, fun p hp hp' => ?_⟩
  · rw [h.files, if_pos rfl]
  · rw [h.files, if_neg hp, if_neg hp']

section

variable (h : t.Grown t₁) (hw : t₁.write (temporaryPath path) text = .ok t₂)
include h hw

theorem Grown.at?_temporary_ne : t₁.at? (t.placeOf (temporaryPath path)) ≠ some .directory :=
  h.placeOf (temporaryPath path) ▸ (write_eq_ok hw).2.1

/-- While the temporary file is written, nothing else changes. -/
theorem Grown.midway_place (content : ByteArray) :
    t.Midway path text (t₁.place (t.placeOf (temporaryPath path)) (.file content)) := by
  have hfree := h.at?_temporary_ne hw
  have hfile := fun p => fileAt?_place_file (t := t₁) (q := p) (ne_nil_of_at? hfree) content
  refine ⟨h.toKeepsDirectories.trans (.place hfree _), .inl ?_, fun p _ hp => ?_⟩
  · rw [hfile, if_neg (placeOf_temporaryPath_ne t path).symm, h.files]
  · rw [hfile, if_neg hp, h.files]

theorem Grown.midway_partials :
    ∀ s ∈ t₁.partials (t₁.placeOf (temporaryPath path)) text.toUTF8, t.Midway path text s := by
  intro s hs
  obtain ⟨k, -, rfl⟩ := List.mem_map.mp hs
  rw [h.placeOf]
  exact h.midway_place hw _

theorem Grown.midway_write : t.Midway path text t₂ := by
  rw [(write_eq_ok hw).2.2, h.placeOf]
  exact h.midway_place hw _

/-- The temporary file stays if it may not be removed. -/
theorem Grown.abandoned_of_refused (hr : (refuses t₂ (.remove (temporaryPath path))).isSome) :
    Abandoned refuses t path text t₂ := by
  refine ⟨fun p hp => ?_, .inr (.inr (.inr ⟨?_, hr⟩))⟩
  · rw [fileAt?_write hw, h.placeOf, if_neg hp, h.files]
  · rw [← fileAt?_eq_some_iff, fileAt?_write hw, h.placeOf, if_pos rfl]

/-- Without the temporary file the tree has the files it had, but for what was under that path. -/
theorem Grown.removed {t₃ : FileTree} (hr : t₂.remove (temporaryPath path) = .ok t₃) :
    t.Midway path text t₃ ∧ Abandoned refuses t path text t₃ := by
  have hentry : t₂.at? (t.placeOf (temporaryPath path)) = some (.file text.toUTF8) := by
    rw [← fileAt?_eq_some_iff, fileAt?_write hw, h.placeOf, if_pos rfl]
  have hne : t₂.at? (t.placeOf (temporaryPath path)) ≠ some .directory := by simp [hentry]
  obtain rfl : t₂.without (t.placeOf (temporaryPath path)) = t₃ := by
    rw [remove_of_write hw, h.placeOf] at hr
    exact Except.ok.inj hr
  have hfiles : ∀ p, p ≠ t.placeOf (temporaryPath path) →
      (t₂.without (t.placeOf (temporaryPath path))).fileAt? p = t.fileAt? p := by
    intro p hp
    rw [fileAt?_without (ne_nil_of_at? hne), if_neg hp, fileAt?_write hw, h.placeOf, if_neg hp,
      h.files]
  refine ⟨⟨?_, .inl (hfiles _ (placeOf_temporaryPath_ne t path).symm), fun p _ => hfiles p⟩,
    hfiles, .inl ?_⟩
  · exact (h.toKeepsDirectories.trans (keepsDirectories_write hw)).trans (.without hne)
  · rw [at?_without (ne_nil_of_at? hne), if_pos rfl]

/-- The temporary file has taken the place of its file. -/
theorem Grown.renamed {t₃ : FileTree} (hr : t₂.rename (temporaryPath path) path = .ok t₃) :
    t.Written path text t₃ ∧ t₃.at? (t.placeOf (temporaryPath path)) = none := by
  refine ⟨h.written (written_of_write_of_rename hw hr), ?_⟩
  have hplace := (h.toKeepsDirectories.trans (keepsDirectories_write hw)).placeOf
  have hne := placeOf_temporaryPath_ne t path
  obtain ⟨content, hcontent, -, hfree, rfl⟩ := rename_eq_ok hr
  rw [hplace] at hcontent hfree
  have hsource : t₂.at? (t.placeOf (temporaryPath path)) ≠ some .directory := by
    simp [fileAt?_eq_some_iff.mp hcontent]
  rw [hplace, hplace, if_neg hne, at?_place (ne_nil_of_at? hfree), if_neg hne,
    at?_without (ne_nil_of_at? hsource), if_pos rfl]

end

/-- Whoever reads the file on the way finds what it was or what it is to be. -/
theorem Midway.read_eq_ok {content : ByteArray} (h : t.Midway path text s)
    (hr : s.read path = .ok content) :
    t.fileAt? (t.placeOf path) = some content ∨ content = text.toUTF8 := by
  obtain ⟨p, hp, hfile⟩ := read_eq_ok_iff.mp hr
  obtain rfl := locate_eq_ok hp
  rw [h.placeOf] at hfile
  rcases h.whole with hwhole | hwhole
  · exact .inl (hwhole ▸ hfile)
  · exact .inr (Option.some.inj (hfile.symm.trans hwhole))

/-- What a write leaves, by its answer. -/
def Outcome (refuses : Refusals) (t : FileTree) (path text : String) (s : FileTree) :
    Except WriteFailure Unit → Prop
  | .error _ => Abandoned refuses t path text s
  | .ok () => t.Written path text s ∧ s.read path = .ok text.toUTF8 ∧
      s.at? (t.placeOf (temporaryPath path)) = none

/-- **A write is all or nothing.**  Whatever a file system refuses, the file is in every state of
the write as it was or has its whole new content, and no other file but the temporary one is
touched.  A write that fails leaves the files it has found, and one that succeeds its file and
nothing under the temporary path.  Where nothing is refused, this is what a write does on the
tree. -/
theorem writeAtomic_atomic (refuses : Refusals) (t : FileTree) (path text : String) :
    ∃ answer w, (writeAtomic path text : WatchM _) refuses { tree := t } = (answer, w) ∧
      ((∀ s o, refuses s o = none) →
        (writeAtomic path text : StateM FileTree _) t = (answer, w.tree)) ∧
      (∀ s ∈ w.states, t.Midway path text s) ∧ Outcome refuses t path text w.tree answer := by
  rcases hrun : (writeAtomic path text : WatchM _) refuses { tree := t } with ⟨answer, w⟩
  refine ⟨answer, w, rfl, fun hr => ?_, ?_⟩
  · have hfollows := WatchM.writeAtomic_follows path text refuses hr { tree := t }
    rwa [hrun] at hfollows
  obtain ⟨prepared, w₁, hp, hrun⟩ := WatchM.exists_of_run_bind_eq hrun
  obtain ⟨hgrown, hpast⟩ : GrownAlong path t w₁.tree ∧ ∀ s ∈ w₁.past, GrownAlong path t s := by
    have := WatchM.passes_prepareDirectory path refuses { tree := t }
    simpa [hp] using this
  have hstates : ∀ s ∈ w₁.states, t.Midway path text s :=
    List.forall_mem_cons.mpr ⟨hgrown.midway, fun s hs => (hpast s hs).midway⟩
  cases prepared with
  | error e =>
    cases hrun
    exact ⟨hstates, hgrown.abandoned⟩
  | ok =>
  obtain ⟨written, w₂, hw, hrun⟩ := WatchM.exists_of_run_bind_eq hrun
  cases written with
  | error e =>
    cases hrun
    obtain ⟨rfl, -⟩ := WatchM.attempt_eq_error hw
    exact ⟨hstates, hgrown.abandoned⟩
  | ok =>
  obtain ⟨t₂, hwrite, rfl⟩ := WatchM.attempt_eq_ok hw
  have hstates : ∀ s ∈ t₂ :: w₁.tree.partials (w₁.tree.placeOf (temporaryPath path)) text.toUTF8 ++
      w₁.states, t.Midway path text s := by
    rw [List.forall_mem_append, List.forall_mem_cons]
    exact ⟨⟨hgrown.midway_write hwrite, hgrown.midway_partials hwrite⟩, hstates⟩
  obtain ⟨moved, w₃, hr, hrun⟩ := WatchM.exists_of_run_bind_eq hrun
  cases moved with
  | ok =>
    cases hrun
    obtain ⟨t₃, hrename, rfl⟩ := WatchM.attempt_eq_ok hr
    obtain ⟨hwritten, hgone⟩ := hgrown.renamed hwrite hrename
    exact ⟨List.forall_mem_cons.mpr ⟨hwritten.midway, hstates⟩,
      hwritten, hwritten.read_eq_ok, hgone⟩
  | error e =>
    obtain ⟨rfl, -⟩ := WatchM.attempt_eq_error hr
    obtain ⟨removed, w₄, hm, hrun⟩ := WatchM.exists_of_run_bind_eq hrun
    cases hrun
    cases removed with
    | ok =>
      obtain ⟨t₃, hremove, rfl⟩ := WatchM.attempt_eq_ok hm
      obtain ⟨hmidway, habandoned⟩ := hgrown.removed hwrite hremove
      exact ⟨List.forall_mem_cons.mpr ⟨hmidway, hstates⟩, habandoned⟩
    | error e =>
      obtain ⟨rfl, hrefused | hremove⟩ := WatchM.attempt_eq_error hm
      · exact ⟨hstates, hgrown.abandoned_of_refused hwrite (by simp [hrefused])⟩
      · cases (remove_of_write hwrite).symm.trans hremove

/-- A tree with a file that is to be written again. -/
def draftTree : FileTree where
  entries := [(["notes.yaml".toList], .file "draft".toUTF8)]

theorem writeAtomic_atomic_notes : ∃ w,
    (writeAtomic "notes.yaml" "final" : WatchM _) (fun _ _ => none) { tree := draftTree } =
        (.ok (), w) ∧
      (writeAtomic "notes.yaml" "final" : StateM FileTree _) draftTree = (.ok (), w.tree) ∧
      (∀ s ∈ w.states, draftTree.Midway "notes.yaml" "final" s) ∧
      w.tree.read "notes.yaml" = .ok "final".toUTF8 := by
  obtain ⟨answer, w, hrun, hplain, hstates, houtcome⟩ :=
    writeAtomic_atomic (fun _ _ => none) draftTree "notes.yaml" "final"
  have hok : ((writeAtomic "notes.yaml" "final" : WatchM _) (fun _ _ => none)
      { tree := draftTree }).1 = .ok () := by
    decide +kernel
  obtain rfl : answer = .ok () := by simpa only [hrun] using hok
  obtain ⟨-, hread, -⟩ := houtcome
  exact ⟨w, hrun, hplain fun _ _ => rfl, hstates, hread⟩

/-- A write that fails, on the empty tree, and leaves a directory under its temporary path. -/
theorem detour_leaves_directory : ∃ e t',
    (writeAtomic "x.tmp/../x" "new" : StateM FileTree _) {} = (.error e, t') ∧
      ({} : FileTree).at? (({} : FileTree).placeOf (temporaryPath "x.tmp/../x")) = none ∧
      t'.at? (({} : FileTree).placeOf (temporaryPath "x.tmp/../x")) = some .directory := by
  refine ⟨_, _, rfl, rfl, rfl⟩

end FileTree

end ServiceSpec
