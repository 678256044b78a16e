import VisualRegression.Proofs.Run.Course
import VisualRegression.Proofs.Run.Publishing
import VisualRegression.Proofs.Store.Saving

/-!
# Runs on a disk that may refuse

On a disk that may refuse any operation, each save and each publication takes one of the courses
that its operations can take (`Disk`), and changes nothing but its own files
(`Disk.changesOnly_save`, `Disk.changesOnly_publish`).  A run on such a disk is `runOn`; the runs of
`RunRequest.run` are those on a disk that refuses nothing (`runOn_willing`).
-/

namespace VisualRegression

open FileSystem FileProgram CheckProgram

variable [WorkingDirectory]

/-- **How saves and publications come out** on a disk: each takes a course of its operations in
which any of them may be refused. -/
structure Disk (codec : ImageCodec) where
  save : BaselineDirectory → BaselineKey → Image → FileSystem → Except CheckFault Unit × FileSystem
  publish : AttachmentFiles → CheckResult → FileSystem → FileSystem
  reaches_save : ∀ d key img fs,
    Reaches (d.saving codec key img, fs) (.done (save d key img fs).1, (save d key img fs).2)
  reaches_publish : ∀ files result fs,
    Reaches (files.publishing codec result, fs) (.done (), publish files result fs)

namespace Disk

/-- The disk that refuses nothing. -/
def willing (codec : ImageCodec) : Disk codec where
  save d key img fs := d.save codec key img fs
  publish files result fs := files.publish codec result fs
  reaches_save d key img fs := by
    have hreaches := reaches_run (d.saving codec key img) fs
    rw [BaselineDirectory.run_saving] at hreaches
    exact hreaches
  reaches_publish files result fs := by
    have hreaches := reaches_run (files.publishing codec result) fs
    rw [AttachmentFiles.run_publishing] at hreaches
    exact hreaches

/-- The disk that refuses everything. -/
def refusing (codec : ImageCodec) (fault : FileFault) : Disk codec where
  save d key img fs := ((d.saving codec key img).runRefused fault, fs)
  publish _ _ fs := fs
  reaches_save _ _ _ fs := reaches_runRefused _ fs fault
  reaches_publish _ _ fs := reaches_runRefused _ fs fault

variable {codec : ImageCodec} (disk : Disk codec)

/-- **A save changes nothing but the two files of its baseline.** -/
theorem changesOnly_save (d : BaselineDirectory) (key : BaselineKey) (img : Image)
    (fs : FileSystem) :
    ChangesOnly (fun p => p = d.filePath key ∨ p = d.temporaryPath key) fs
      (disk.save d key img fs).2 := by
  obtain ⟨hturn, -⟩ := holds_of_reaches (BaselineDirectory.always_saving d codec key img fs)
    (disk.reaches_save d key img fs)
  have hway : ∀ place ∈ placesAlong d.directory,
      OnTheWay (fun p => p = d.filePath key ∨ p = d.temporaryPath key) place := by
    intro place hplace
    refine ⟨d.filePath key, .inl rfl, ?_⟩
    rw [show (d.filePath key).parent = _ from FilePath.parent_join _ _]
    exact hplace
  obtain hprepared | ⟨bytes, -, hreplaced⟩ := hturn
  · refine ChangesOnly.of_grows hprepared ?_ hway
    intro place hplace
    exact ⟨_, .inr rfl, hplace⟩
  · refine ChangesOnly.of_grows hreplaced.grows ?_ hway
    intro place hplace
    obtain htemporary | hfile := hplace
    · exact ⟨_, .inr rfl, htemporary⟩
    · exact ⟨_, .inl rfl, hfile⟩

/-- A save that fails is no fault of the request. -/
theorem isConfiguration_of_save {d : BaselineDirectory} {key : BaselineKey} {img : Image}
    {fs : FileSystem} {fault : CheckFault} (h : (disk.save d key img fs).1 = .error fault) :
    fault.isConfiguration = false := by
  have halways : Always (fun _ => True)
      (fun answer _ => ∀ fault, answer = .error fault → fault.isConfiguration = false)
      (d.saving codec key img) fs := by
    unfold BaselineDirectory.saving
    rcases codec.encode img with cause | bytes
    · refine ⟨trivial, fun fault hfault => ?_⟩
      obtain rfl := Except.error.inj hfault
      rfl
    · refine (always_true (d.writing key bytes) fs).bind fun written fs' _ => ⟨trivial, ?_⟩
      intro fault hfault
      obtain ⟨cause, -, rfl⟩ := mapError_eq_error.1 hfault
      rfl
  exact (holds_of_reaches halways (disk.reaches_save d key img fs)).2 _ rfl fault h

/-- A save that ends well leaves the image in the file of its baseline. -/
theorem kept_of_save {d : BaselineDirectory} {key : BaselineKey} {img : Image} {fs : FileSystem}
    (h : (disk.save d key img fs).1 = .ok ()) :
    d.Kept codec key img fs (disk.save d key img fs).2 :=
  (holds_of_reaches (BaselineDirectory.always_saving d codec key img fs)
    (disk.reaches_save d key img fs)).2 _ (congrArg FileProgram.done h)

/-- **A publication changes nothing but the files that the result has.** -/
theorem changesOnly_publish (files : AttachmentFiles) (result : CheckResult) (fs : FileSystem) :
    ChangesOnly (files.Has result) fs (disk.publish files result fs) :=
  (holds_of_reaches (AttachmentFiles.always_publishing files codec result fs)
    (disk.reaches_publish files result fs)).1

end Disk

namespace RunRequest

variable {codec : ImageCodec}

/-! ## The run -/

/-- The parties of a run on a disk. -/
abbrev partiesOn (r : RunRequest) (p : Policy) (disk : Disk codec) : Collaborators FileSystem :=
  r.partiesWith codec p (disk.save (r.directory p))

/-- What a run does at one event of its step on a disk. -/
def noteOn (r : RunRequest) (disk : Disk codec) :
    SoftAssert × FileSystem → StepEvent → SoftAssert × FileSystem
  | (a, fs), e => (a.note e, match e with
    | .published result => disk.publish ⟨r.diffOut, r.reportOut⟩ result fs
    | _ => fs)

/-- What a run does after its step on a disk: results are published and assertions noted, in
order. -/
def settleOn (r : RunRequest) (disk : Disk codec) (events : List StepEvent) (fs : FileSystem) :
    SoftAssert × FileSystem :=
  events.foldl (r.noteOn disk) ({}, fs)

/-- Runs one check on a disk: whether it passed, or why the request was wrong, and the files
afterwards. -/
def runOn (r : RunRequest) (disk : Disk codec) (p : Policy) (now : Instant) (id : CheckId)
    (action : Action) (fs : FileSystem) : Except CheckFault Bool × FileSystem :=
  match (r.step p now id action).run (r.partiesOn p disk) ⟨.standard, fs⟩ with
  | (some outcome, shared) =>
    let (asserts, fs) := r.settleOn disk outcome.events shared.world
    match outcome.returned with
    | .error fault => (.error fault, fs)
    | .ok () => (.ok asserts.allPassed, fs)
  | (none, shared) => (.error .brokenOff, shared.world)

variable {r : RunRequest} {p : Policy} {now : Instant} {id : CheckId} {action : Action}
  {fs : FileSystem}

/-- **On a disk that refuses nothing** a run is what it is at one go. -/
theorem runOn_willing :
    r.runOn (.willing codec) p now id action fs = r.run codec p now id action fs := rfl

end RunRequest

end VisualRegression
