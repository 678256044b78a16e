import VisualRegression.Proofs.FileSystem.Confinement
import VisualRegression.Run.Attachment

/-!
# Publication, one operation after the other

A result is published by making directories and writing files one operation after the other
(`AttachmentFiles.publishing`), and each operation may be refused.  On a disk that refuses nothing
this comes to what publication at one go does (`run_publishing`).  Whatever is refused, and however
far it gets, publication changes nothing but the files that the result has
(`always_publishing`).
-/

namespace VisualRegression.AttachmentFiles

open FileSystem FileProgram

variable [WorkingDirectory]

variable {files : AttachmentFiles} {codec : ImageCodec} {r : CheckResult} {fs fs₀ : FileSystem}

/-- Writes a file, whose directory is made if need be, and tells whether it was written. -/
def writing (path : String) (bytes : List UInt8) : FileProgram Bool :=
  let p := FilePath.ofText path
  ((making p.parent.absolute p.parent.parts.reverse).andThen (rewriting p bytes)).bind
    fun answer => .done answer.isOk

/-- Writes the painted differences, if they are asked for and there are some, and tells whether
publication goes on. -/
def publishingDiff (files : AttachmentFiles) (codec : ImageCodec) (r : CheckResult) :
    FileProgram Bool :=
  match files.diffOut, r.diff with
  | some path, some diff =>
    match codec.encode diff with
    | .error _ => .done false
    | .ok bytes => writing path bytes
  | _, _ => .done true

/-- Writes the report, if it is asked for. -/
def publishingReport (files : AttachmentFiles) (codec : ImageCodec) (r : CheckResult) :
    FileProgram Unit :=
  match files.reportOut with
  | none => .done ()
  | some path =>
    match r.toReport codec with
    | .error _ => .done ()
    | .ok report => (writing path (reportText report).toUTF8.toList).bind fun _ => .done ()

/-- Publishes a result: the painted differences, and then the report unless they could not be
written. -/
def publishing (files : AttachmentFiles) (codec : ImageCodec) (r : CheckResult) :
    FileProgram Unit :=
  (files.publishingDiff codec r).bind fun
    | true => files.publishingReport codec r
    | false => .done ()

theorem run_writing (path : String) (bytes : List UInt8) (fs : FileSystem) :
    (writing path bytes).run fs = writeFile path bytes fs := by
  unfold writing writeFile
  rw [run_bind, run_andThen, run_making]
  have hmaking : makeAll (FilePath.ofText path).parent.absolute
      (FilePath.ofText path).parent.parts.reverse fs =
    fs.makeDirectories (FilePath.ofText path).parent := rfl
  dsimp only
  rw [hmaking]
  rcases fs.makeDirectories (FilePath.ofText path).parent with ⟨fault | ⟨⟩, fs₁⟩
  · rfl
  · dsimp only
    rw [run_rewriting]
    rcases fs₁.writeFile (FilePath.ofText path) bytes with fault | fs₂
    · rfl
    · rfl

theorem run_publishingDiff (fs : FileSystem) :
    (files.publishingDiff codec r).run fs = files.publishDiff codec r fs := by
  unfold publishingDiff publishDiff
  rcases files.diffOut with _ | path
  · rfl
  · rcases r.diff with _ | diff
    · rfl
    · dsimp only
      rcases codec.encode diff with fault | bytes
      · rfl
      · exact run_writing path bytes fs

theorem run_publishingReport (fs : FileSystem) :
    (files.publishingReport codec r).run fs = ((), files.publishReport codec r fs) := by
  unfold publishingReport publishReport
  rcases files.reportOut with _ | path
  · rfl
  · dsimp only
    rcases r.toReport codec with fault | report
    · rfl
    · dsimp only
      rw [run_bind, run_writing]
      rfl

/-- **On a disk that refuses nothing** a result is published as it is at one go. -/
theorem run_publishing (fs : FileSystem) :
    (files.publishing codec r).run fs = ((), files.publish codec r fs) := by
  unfold publishing publish
  rw [run_bind, run_publishingDiff]
  rcases files.publishDiff codec r fs with ⟨_ | _, fs₁⟩
  · rfl
  · exact run_publishingReport fs₁

/-! ## What is written -/

/-- **The files that a result has**: that of the painted differences, if there are some, and that of
the report. -/
inductive Has (files : AttachmentFiles) (r : CheckResult) : FilePath → Prop
  | diff {path : String} (hpath : files.diffOut = some path) (hdiff : r.diff ≠ none) :
      Has files r (.ofText path)
  | report {path : String} (hpath : files.reportOut = some path) : Has files r (.ofText path)

theorem always_writing {written : FilePath → Prop} {path : String}
    (hpath : written (FilePath.ofText path)) (h : ChangesOnly written fs₀ fs)
    (bytes : List UInt8) :
    Always (ChangesOnly written fs₀) (fun _ => ChangesOnly written fs₀)
      (writing path bytes) fs := by
  refine ((always_making_of_way hpath h).andThen (fun _ => id) fun fs₁ h₁ =>
    always_rewriting_of_mem hpath h₁ bytes).bind fun answer fs₂ hend => ?_
  have h₂ : ChangesOnly written fs₀ fs₂ := by
    obtain fault | ⟨⟩ := answer
    · exact hend
    · exact hend
  exact ⟨h₂, h₂⟩

/-- **Publication changes nothing but the files that the result has**, at every turn and whatever is
refused. -/
theorem always_publishing (files : AttachmentFiles) (codec : ImageCodec) (r : CheckResult)
    (fs : FileSystem) :
    Always (ChangesOnly (files.Has r) fs) (fun _ => ChangesOnly (files.Has r) fs)
      (files.publishing codec r) fs := by
  have hdone : ∀ {β : Type} (b : β) {fs₁ : FileSystem}, ChangesOnly (files.Has r) fs fs₁ →
      Always (ChangesOnly (files.Has r) fs) (fun _ => ChangesOnly (files.Has r) fs) (.done b) fs₁ :=
    fun _ _ h => ⟨h, h⟩
  have hstart := ChangesOnly.refl (files.Has r) fs
  have hdiff : Always (ChangesOnly (files.Has r) fs) (fun _ => ChangesOnly (files.Has r) fs)
      (files.publishingDiff codec r) fs := by
    unfold publishingDiff
    split
    · rename_i path diff hpath hd
      split
      · exact hdone false hstart
      · exact always_writing (.diff hpath (by rw [hd]; exact Option.some_ne_none _)) hstart _
    · exact hdone true hstart
  refine hdiff.bind fun goesOn fs₁ h₁ => ?_
  obtain _ | _ := goesOn
  · exact hdone () h₁
  · show Always _ _ (files.publishingReport codec r) fs₁
    unfold publishingReport
    split
    · exact hdone () h₁
    · rename_i path hpath
      split
      · exact hdone () h₁
      · exact (always_writing (.report hpath) h₁ _).bind fun _ _ h₂ => hdone () h₂

end VisualRegression.AttachmentFiles
