import ServiceSpec.Jobs.Run
import ServiceSpec.Proofs.AtomicWriting

/-!
# What jobs leave

A run that succeeds has written every output that it reports, at its turn and with the text that
was rendered for it.  Whether the output is still there at the end of the run is another matter.
Outputs whose paths lead to different places do not overwrite each other, but each of them takes its
temporary path for a while, and whatever is there is gone afterwards.  So an output is lost exactly
when its path leads where the temporary path of a later one does.  Nothing looks at temporary paths
before a run, and the loss is no error.

The tree that a job loads its service from is the one that the jobs before it have left.

## Main definitions

* `Job.report`, `Configuration.outputPaths`: what is reported, and the paths in the order of writing
* `FileTree.Writes`: files written one after another

## Main results

* `Writes.fileAt?`: what is not written to is as it was, but where a temporary file was
* `Job.writeOutputs_split`, `runJobs_split`: a run at the turn of one output, or of one job
* `Configuration.outputs_kept_iff`: when an output is there at the end of a run
-/

namespace ServiceSpec

open FileTree

/-- The paths of the outputs of a job. -/
def Job.paths (j : Job) : List String :=
  j.outputs.map (·.2)

/-- What a job reports when it is done. -/
def Job.report (j : Job) : JobReport where
  specification := j.specification
  written := j.paths

/-- The paths of the outputs of jobs, in the order in which they are made. -/
def Configuration.outputPaths (c : Configuration) : List String :=
  c.jobs.flatMap Job.paths

namespace FileTree

variable {t t' : FileTree} {path text : String} {paths : List String}

/-! ## Files written one after another -/

/-- Files have been written one after another. -/
inductive Writes : FileTree → List String → FileTree → Prop
  | nil (t : FileTree) : Writes t [] t
  | cons {t t₁ t' : FileTree} {path text : String} {rest : List String} :
    t.Written path text t₁ → Writes t₁ rest t' → Writes t (path :: rest) t'

namespace Writes

theorem append {t₁ : FileTree} {more : List String} (h : t.Writes paths t₁)
    (h' : t₁.Writes more t') : t.Writes (paths ++ more) t' := by
  induction h with
  | nil => exact h'
  | cons hw _ ih => exact .cons hw (ih h')

theorem keepsDirectories (h : t.Writes paths t') : t.KeepsDirectories t' := by
  induction h with
  | nil => exact .refl _
  | cons hw _ ih => exact hw.toKeepsDirectories.trans ih

/-- What is not written to is as it was, unless it is where a temporary file was. -/
theorem fileAt? (h : t.Writes paths t') {p : Place} (hp : ∀ q ∈ paths, t.placeOf q ≠ p) :
    t'.fileAt? p =
      if ∃ q ∈ paths, t.placeOf (temporaryPath q) = p then none else t.fileAt? p := by
  induction h with
  | nil => simp
  | @cons t t₁ t' path text rest hw _ ih =>
    obtain ⟨hne, hrest⟩ := List.forall_mem_cons.mp hp
    simp only [hw.placeOf] at ih
    rw [ih hrest, hw.files, if_neg (Ne.symm hne)]
    by_cases hlater : ∃ q ∈ rest, t.placeOf (temporaryPath q) = p
    · rw [if_pos hlater, if_pos (List.exists_mem_cons_of_exists hlater)]
    · rw [if_neg hlater]
      refine if_congr ?_ rfl rfl
      rw [List.exists_mem_cons_iff, or_iff_left hlater, eq_comm]

end Writes

/-- A file that has been written can be read as long as no file is written whose temporary path
leads to it. -/
theorem Written.read_eq_ok_iff {t₁ : FileTree} (h : t.Written path text t₁)
    (hlater : t₁.Writes paths t') (hfree : ∀ q ∈ paths, t.placeOf q ≠ t.placeOf path) :
    t'.read path = .ok text.toUTF8 ↔
      ∀ q ∈ paths, t.placeOf (temporaryPath q) ≠ t.placeOf path := by
  have hlocated := hlater.keepsDirectories.locate h.located
  have hfile := hlater.fileAt? (p := t.placeOf path) (by simpa only [h.placeOf] using hfree)
  rw [h.files, if_pos rfl] at hfile
  simp only [h.placeOf] at hfile
  rw [FileTree.read_eq_ok_iff]
  simp only [hlocated, Except.ok.injEq, exists_eq_left', hfile]
  split_ifs with hlost
  · simpa using hlost
  · simpa using hlost

end FileTree

/-! ## Running -/

section

variable {t t' : FileTree} {s : Service}

theorem moves_readText (path : String) :
    Moves Eq (FileAccess.readText path : StateM FileTree _) := by
  refine .bind (.read path) fun read => ?_
  split
  · exact .pure _
  · split <;> exact .pure _

theorem moves_load (path : String) : Moves Eq (Service.load path : StateM FileTree _) := by
  unfold Service.load
  split
  · exact .pure _
  · refine .bind (moves_readText path) fun text => ?_
    split <;> exact .pure _

/-- Loading changes nothing. -/
theorem moves_loadExpanded (path : String) :
    Moves Eq (Service.loadExpanded path : StateM FileTree _) := by
  refine .bind (moves_load path) fun loaded => ?_
  split <;> exact .pure _

namespace Job

theorem writeOutputs_cons_eq_ok {output : OutputKind × String}
    {rest : List (OutputKind × String)}
    (h : (writeOutputs s (output :: rest) : StateM FileTree _) t = (.ok (), t')) :
    ∃ text t₁, s.output output.1 output.2 = .ok text ∧ t.Written output.2 text t₁ ∧
      (writeOutputs s rest : StateM FileTree _) t₁ = (.ok (), t') := by
  rw [writeOutputs] at h
  cases htext : s.output output.1 output.2 with
  | error e =>
    rw [htext] at h
    cases h
  | ok text =>
  rw [htext] at h
  obtain ⟨written, t₁, hw, h⟩ := exists_of_run_bind_eq h
  cases written with
  | error e => cases h
  | ok => exact ⟨text, t₁, rfl, writeAtomic_eq_ok hw, h⟩

theorem writes_of_writeOutputs {outputs : List (OutputKind × String)}
    (h : (writeOutputs s outputs : StateM FileTree _) t = (.ok (), t')) :
    t.Writes (outputs.map (·.2)) t' := by
  induction outputs generalizing t with
  | nil =>
    cases h
    exact .nil _
  | cons output rest ih =>
    obtain ⟨text, t₁, -, hw, hrest⟩ := writeOutputs_cons_eq_ok h
    exact .cons hw (ih hrest)

/-- The turn of one output in a job. -/
theorem writeOutputs_split {before after : List (OutputKind × String)} {kind : OutputKind}
    {path : String}
    (h : (writeOutputs s (before ++ (kind, path) :: after) : StateM FileTree _) t = (.ok (), t')) :
    ∃ text t₁ t₂, s.output kind path = .ok text ∧ t.Writes (before.map (·.2)) t₁ ∧
      t₁.Written path text t₂ ∧ t₂.Writes (after.map (·.2)) t' := by
  induction before generalizing t with
  | nil =>
    obtain ⟨text, t₁, htext, hw, hrest⟩ := writeOutputs_cons_eq_ok h
    exact ⟨text, t, t₁, htext, .nil t, hw, writes_of_writeOutputs hrest⟩
  | cons output rest ih =>
    obtain ⟨text₀, t₀, -, hw₀, hrest⟩ := writeOutputs_cons_eq_ok h
    obtain ⟨text, t₁, t₂, htext, hbefore, hw, hafter⟩ := ih hrest
    exact ⟨text, t₁, t₂, htext, .cons hw₀ hbefore, hw, hafter⟩

/-- A job that is done has loaded its service, which changes nothing, and written its outputs. -/
theorem run_eq_ok {j : Job} {r : JobReport} (h : (j.run : StateM FileTree _) t = (.ok r, t')) :
    r = j.report ∧ ∃ s, (Service.loadExpanded j.specification : StateM FileTree _) t = (.ok s, t) ∧
      (writeOutputs s j.outputs : StateM FileTree _) t = (.ok (), t') := by
  obtain ⟨loaded, t₁, hl, h⟩ := exists_of_run_bind_eq h
  have ht : t = t₁ := by
    have := moves_loadExpanded j.specification t
    rwa [hl] at this
  subst ht
  cases loaded with
  | error e => cases h
  | ok s =>
  obtain ⟨written, t₂, hw, h⟩ := exists_of_run_bind_eq h
  cases written with
  | error e => cases h
  | ok =>
  cases h
  exact ⟨rfl, s, hl, hw⟩

end Job

theorem runJobs_cons_eq_ok {j : Job} {rest : List Job} {reports : List JobReport}
    (h : (runJobs (j :: rest) : StateM FileTree _) t = (.ok reports, t')) :
    ∃ t₁ later, (j.run : StateM FileTree _) t = (.ok j.report, t₁) ∧
      (runJobs rest : StateM FileTree _) t₁ = (.ok later, t') ∧ reports = j.report :: later := by
  obtain ⟨done, t₁, hj, h⟩ := exists_of_run_bind_eq h
  cases done with
  | error e => cases h
  | ok r =>
  obtain ⟨done, t₂, hrest, h⟩ := exists_of_run_bind_eq h
  cases done with
  | error e => cases h
  | ok later =>
  cases h
  obtain ⟨rfl, -⟩ := Job.run_eq_ok hj
  exact ⟨t₁, later, hj, hrest, rfl⟩

theorem writes_of_runJobs {jobs : List Job} {reports : List JobReport}
    (h : (runJobs jobs : StateM FileTree _) t = (.ok reports, t')) :
    reports = jobs.map Job.report ∧ t.Writes (jobs.flatMap Job.paths) t' := by
  induction jobs generalizing t reports with
  | nil =>
    cases h
    exact ⟨rfl, .nil _⟩
  | cons j rest ih =>
    obtain ⟨t₁, later, hj, hrest, rfl⟩ := runJobs_cons_eq_ok h
    obtain ⟨-, s, -, hw⟩ := Job.run_eq_ok hj
    obtain ⟨rfl, hlater⟩ := ih hrest
    exact ⟨rfl, (Job.writes_of_writeOutputs hw).append hlater⟩

/-- The turn of one job. -/
theorem runJobs_split {earlier later : List Job} {j : Job} {reports : List JobReport}
    (h : (runJobs (earlier ++ j :: later) : StateM FileTree _) t = (.ok reports, t')) :
    ∃ t₁ t₂, (runJobs earlier : StateM FileTree _) t = (.ok (earlier.map Job.report), t₁) ∧
      (j.run : StateM FileTree _) t₁ = (.ok j.report, t₂) ∧
      t₂.Writes (later.flatMap Job.paths) t' := by
  induction earlier generalizing t reports with
  | nil =>
    obtain ⟨t₁, done, hj, hrest, -⟩ := runJobs_cons_eq_ok h
    exact ⟨t, t₁, rfl, hj, (writes_of_runJobs hrest).2⟩
  | cons first rest ih =>
    obtain ⟨t₀, done, hfirst, hrest, -⟩ := runJobs_cons_eq_ok h
    obtain ⟨t₁, t₂, hearlier, hj, hlater⟩ := ih hrest
    refine ⟨t₁, t₂, ?_, hj, hlater⟩
    simp only [runJobs, bind, StateT.bind, hfirst, hearlier]
    rfl

/-- **When an output is lost.**  A run that succeeds reports all paths of its outputs, which lead to
different places.  What is rendered for an output can be read at the end of the run if and only if
the temporary path of no later output leads to its place. -/
theorem Configuration.outputs_kept_iff {c : Configuration} {reports : List JobReport}
    (h : (c.run : StateM FileTree _) t = (.ok reports, t'))
    (apart : (c.outputPaths.map t.placeOf).Nodup) :
    reports = c.jobs.map Job.report ∧
    ∀ earlier j later, c.jobs = earlier ++ j :: later → ∃ t₁ s,
      (runJobs earlier : StateM FileTree _) t = (.ok (earlier.map Job.report), t₁) ∧
      (Service.loadExpanded j.specification : StateM FileTree _) t₁ = (.ok s, t₁) ∧
      ∀ before kind path after, j.outputs = before ++ (kind, path) :: after → ∃ text,
        s.output kind path = .ok text ∧
        (t'.read path = .ok text.toUTF8 ↔
          ∀ q ∈ after.map (·.2) ++ later.flatMap Job.paths,
            t.placeOf (temporaryPath q) ≠ t.placeOf path) := by
  refine ⟨(writes_of_runJobs h).1, fun earlier j later hjobs => ?_⟩
  rw [run, hjobs] at h
  obtain ⟨t₁, t₂, hearlier, hj, hlater⟩ := runJobs_split h
  obtain ⟨-, s, hload, hwrite⟩ := Job.run_eq_ok hj
  refine ⟨t₁, s, hearlier, hload, fun before kind path after houtputs => ?_⟩
  rw [houtputs] at hwrite
  obtain ⟨text, t₃, t₄, htext, hbefore, hwritten, hafter⟩ := Job.writeOutputs_split hwrite
  refine ⟨text, htext, ?_⟩
  have hkeeps : t.KeepsDirectories t₃ :=
    (writes_of_runJobs hearlier).2.keepsDirectories.trans hbefore.keepsDirectories
  -- nothing is written to this place afterwards, so only temporary files can be there
  have hfree : ∀ q ∈ after.map (·.2) ++ later.flatMap Job.paths,
      t.placeOf q ≠ t.placeOf path := by
    have hpaths : c.outputPaths = (earlier.flatMap Job.paths ++ before.map (·.2)) ++
        path :: (after.map (·.2) ++ later.flatMap Job.paths) := by
      simp [outputPaths, hjobs, Job.paths, houtputs]
    rw [hpaths, List.map_append, List.map_cons] at apart
    intro q hq heq
    exact (List.nodup_cons.mp apart.of_append_right).1 (heq ▸ List.mem_map_of_mem hq)
  simpa only [hkeeps.placeOf] using
    hwritten.read_eq_ok_iff (hafter.append hlater) (by simpa only [hkeeps.placeOf] using hfree)

end

/-! ## Two runs -/

theorem Configuration.run_eq_ok {c : Configuration} {t : FileTree} {reports : List JobReport}
    (h : ((c.run : StateM FileTree _) t).1.toOption = some reports) :
    (c.run : StateM FileTree _) t = (.ok reports, ((c.run : StateM FileTree _) t).2) := by
  cases hr : (c.run : StateM FileTree _) t with
  | mk result t' =>
    rw [hr] at h
    cases result with
    | error e => cases h
    | ok reports' => rw [Option.some.inj h]

/-- The shortest of specifications, but for its name and version. -/
def notesText : String :=
  "\x7b\"name\":\"Notes\",\"version\":\"1.0\"\x7d"

/-- A tree with nothing but a specification. -/
def notesTree : FileTree where
  entries := [(["notes.json".toList], .file notesText.toUTF8)]

/-- Two outputs in a directory that has to be made. -/
def notesConfiguration : Configuration where
  jobs := [
    { specification := "notes.json"
      outputs := [(.overlay, "out/notes.yaml"), (.schema, "out/schema.json")] }]

theorem notes_run : ((notesConfiguration.run : StateM FileTree _) notesTree).1.toOption =
    some (notesConfiguration.jobs.map Job.report) := by
  decide +kernel

/-- The first output of a run, made before another one in the same directory, is there at its
end. -/
theorem outputs_kept_notes : ∃ s text,
    (Service.loadExpanded "notes.json" : StateM FileTree _) notesTree = (.ok s, notesTree) ∧
      s.output .overlay "out/notes.yaml" = .ok text ∧
      ((notesConfiguration.run : StateM FileTree _) notesTree).2.read "out/notes.yaml" =
        .ok text.toUTF8 := by
  have hrun := Configuration.run_eq_ok notes_run
  obtain ⟨-, hjobs⟩ := Configuration.outputs_kept_iff hrun (by decide +kernel)
  obtain ⟨t₁, s, hearlier, hload, houtputs⟩ := hjobs [] _ [] rfl
  cases hearlier
  obtain ⟨text, htext, hread⟩ := houtputs [] _ _ _ rfl
  exact ⟨s, text, hload, htext, hread.mpr (by decide +kernel)⟩

/-- Two outputs, the first of them under the temporary path of the second. -/
def crowdedConfiguration : Configuration where
  jobs := [
    { specification := "notes.json"
      outputs := [(.overlay, "notes.yaml.tmp"), (.openApiYaml, "notes.yaml")] }]

theorem crowded_run : ((crowdedConfiguration.run : StateM FileTree _) notesTree).1.toOption =
    some (crowdedConfiguration.jobs.map Job.report) := by
  decide +kernel

/-- A run that succeeds with outputs at different places, none of them that of a specification, and
reports an output that is not there any more. -/
theorem crowded_overlay_lost : ∃ reports t',
    (crowdedConfiguration.run : StateM FileTree _) notesTree = (.ok reports, t') ∧
      (crowdedConfiguration.outputPaths.map notesTree.placeOf).Nodup ∧
      (∀ j ∈ crowdedConfiguration.jobs, ∀ path ∈ crowdedConfiguration.outputPaths,
        notesTree.placeOf path ≠ notesTree.placeOf j.specification) ∧
      (∃ r ∈ reports, "notes.yaml.tmp" ∈ r.written) ∧
      ∀ content, t'.read "notes.yaml.tmp" ≠ .ok content := by
  have hlost : (((crowdedConfiguration.run : StateM FileTree _) notesTree).2.read
      "notes.yaml.tmp").toOption = none := by
    decide +kernel
  refine ⟨_, _, Configuration.run_eq_ok crowded_run, by decide +kernel, by decide +kernel,
    by decide +kernel, fun content hread => ?_⟩
  rw [hread] at hlost
  cases hlost

end ServiceSpec
