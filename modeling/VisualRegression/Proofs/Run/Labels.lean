import VisualRegression.Proofs.Check.Labels
import VisualRegression.Proofs.Run.Ways

/-!
# What the labels of a result do to a run

The identity of the check and the time are written on a result, and from there on the report that is
published.  They reach nothing else: runs of one request under two identities and at two times
return the same and leave the same files, but for these labels on the report
(`RunRequest.run_relabel`).
-/

namespace VisualRegression

/-! ## Published results -/

/-- A result with other labels has the report with these labels. -/
theorem CheckResult.toReport_relabel (codec : ImageCodec) (now : Instant)
    (rename : CheckId → CheckId) (r : CheckResult) :
    (r.relabel now rename).toReport codec = (r.toReport codec).map fun report =>
      { report with checkId := (rename r.checkId).text, checkedAt := now } := by
  unfold toReport relabel
  dsimp only
  rcases encodeImage codec r.checkpoint with fault | checkpointPng
  · rfl
  rcases encodeImage? codec r.diff with fault | diffPng
  · rfl
  rcases encodeImage? codec r.baseline with fault | baselinePng
  · rfl
  rfl

variable [WorkingDirectory]

namespace AttachmentFiles

/-- **File systems are the same but for the labels on the report**: there is one file at most in
which they differ, which is that of a report, and there only by identity and time. -/
inductive SameButLabels (files : AttachmentFiles) (now : Instant) (id : CheckId) (fs : FileSystem) :
    FileSystem → Prop
  | same : SameButLabels files now id fs fs
  | report {before : FileSystem} {path : String} {report : Report}
      (hpath : files.reportOut = some path)
      (hfs : fs = before.put (FilePath.ofText path).place
        (.file (reportText report).toUTF8.toList)) :
      SameButLabels files now id fs (before.put (FilePath.ofText path).place
        (.file (reportText { report with checkId := id.text, checkedAt := now }).toUTF8.toList))

/-- Whether a file is published does not depend on what is in it. -/
theorem writeFile_cases (path : String) (fs : FileSystem) :
    (∃ fs', ∀ bytes, (writeFile path bytes fs).2 = fs') ∨
      ∃ before : FileSystem, ∀ bytes, (writeFile path bytes fs).2 =
        before.put (FilePath.ofText path).place (.file bytes) := by
  unfold writeFile
  dsimp only
  rcases fs.makeDirectories (FilePath.ofText path).parent with ⟨fault | ⟨⟩, fs₁⟩
  · exact .inl ⟨fs₁, fun _ => rfl⟩
  obtain ⟨answer, hanswer⟩ := FileSystem.exists_writeFile_eq fs₁ (FilePath.ofText path)
  dsimp only
  cases answer with
  | error fault =>
    refine .inl ⟨fs₁, fun bytes => ?_⟩
    rw [hanswer]
    rfl
  | ok =>
    refine .inr ⟨fs₁, fun bytes => ?_⟩
    rw [hanswer]
    rfl

/-- **A result with other labels is published alike.** -/
theorem publish_relabel (files : AttachmentFiles) (codec : ImageCodec) (now : Instant)
    (rename : CheckId → CheckId) (r : CheckResult) (fs : FileSystem) :
    files.SameButLabels now (rename r.checkId) (files.publish codec r fs)
      (files.publish codec (r.relabel now rename) fs) := by
  have hdiff : files.publishDiff codec (r.relabel now rename) fs = files.publishDiff codec r fs :=
    rfl
  unfold publish
  rw [hdiff]
  rcases files.publishDiff codec r fs with ⟨_ | _, fs₁⟩
  · exact .same
  dsimp only
  unfold publishReport
  rw [CheckResult.toReport_relabel]
  rcases hpath : files.reportOut with _ | path
  · exact .same
  rcases r.toReport codec with fault | report
  · exact .same
  rcases writeFile_cases path fs₁ with ⟨fs', hleft⟩ | ⟨before, hwritten⟩
  · simp only [Except.map, hleft]
    exact .same
  · simp only [Except.map, hwritten]
    exact .report hpath rfl

end AttachmentFiles

/-! ## Runs -/

namespace RunRequest

open CheckProgram

variable {codec : ImageCodec} {r : RunRequest} {disk : Disk codec} {p : Policy} {now : Instant}
  {id : CheckId} {action : Action} {fs : FileSystem}

/-- **Neither the identity of the check nor the clock decides anything in a run** but what is
written on its report. -/
theorem run_relabel (r : RunRequest) (codec : ImageCodec) (p : Policy) (now now' : Instant)
    (id id' : CheckId) (action : Action) (fs : FileSystem) :
    (r.run codec p now' id' action fs).1 = (r.run codec p now id action fs).1 ∧
      AttachmentFiles.SameButLabels ⟨r.diffOut, r.reportOut⟩ now' id'
        (r.run codec p now id action fs).2 (r.run codec p now' id' action fs).2 := by
  rcases hvalid : (r.stepRequest action).validate with fault | ⟨⟩
  · rw [← runOn_willing, ← runOn_willing, runOn_of_not_valid hvalid, runOn_of_not_valid hvalid]
    exact ⟨rfl, .same⟩
  rcases hcontext : r.context with _ | context
  · rw [← runOn_willing, ← runOn_willing, runOn_of_no_context hvalid hcontext,
      runOn_of_no_context hvalid hcontext]
    exact ⟨rfl, .same⟩
  obtain ⟨ha, hr⟩ := StepRequest.validate_eq_ok_iff.1 hvalid _ rfl
  have h := percentage_le ha hr
  rw [run_eq h hcontext, run_eq h hcontext]
  rcases BaselineKey.parse r.baseline with fault | key
  · exact ⟨rfl, .same⟩
  -- the check is the same but for its identity, and so is its result
  have hexecute : Engine.execute ⟨r.policy p⟩ now' (r.check p id' context action key) =
      CheckResult.relabel now' (fun _ => id') <$>
        Engine.execute ⟨r.policy p⟩ now (r.check p id context action key) :=
    Engine.execute_relabel (c := r.check p id context action key) now now' fun _ => id'
  dsimp only
  rw [hexecute, perform_map]
  rcases perform (r.collaborators codec p)
    (Engine.execute ⟨r.policy p⟩ now (r.check p id context action key)) ⟨.standard, fs⟩ with
    ⟨_ | fault | result, s⟩
  · exact ⟨rfl, .same⟩
  · exact ⟨rfl, .same⟩
  · exact ⟨rfl, AttachmentFiles.publish_relabel _ codec now' (fun _ => id') result s.world⟩

end RunRequest

end VisualRegression
