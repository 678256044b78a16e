import VisualRegression.Proofs.Difference.Share
import VisualRegression.Proofs.Run.Frame
import VisualRegression.Proofs.Run.Published
import VisualRegression.Proofs.Run.ReportText

/-!
# What the report of a run tells

A run answers in two ways: by what it returns, and by the report that it writes.  `Found` says what
the result of its check holds, whatever the check does (`Checked.found`), and `Tells` what a report
that was read says of the run, its answer and the files before and after it; there is one lemma for
each thing that it tells.  Where the attachments can be written and are apart from the baseline
(`Unobstructed`), only a result of an image without pixels is not reported
(`Checked.exists_publishes`).  Main statement: `report_agrees`.
-/

namespace VisualRegression

open FileSystem CheckProgram

namespace RunRequest

variable {r : RunRequest} {p : Policy} {now : Instant} {id : CheckId} {context : SearchContext}
  {action : Action} {key : BaselineKey} {result : CheckResult}

/-- A check that has a result has no percentage that is none. -/
theorem percentages_of_result {parties : Collaborators FileSystem} {s s' : Shared FileSystem}
    (h : perform parties (Engine.execute ⟨r.policy p⟩ now (r.check p id context action key)) s =
      (some (.ok result), s')) : ∀ v, r.percentage = some v → v ≤ 100 := by
  have hvalid : (r.check p id context action key).validate = .ok () := by
    by_cases haction : (r.check p id context action key).action = .establish
    · rw [Engine.execute_of_establish haction] at h
      exact (Engine.perform_establish_ok.1 h).1
    · rw [Engine.execute_of_ne_establish haction] at h
      exact (Engine.perform_compareWithBaseline_ok.1 h).1
  obtain ⟨ha, hr⟩ := Check.validate_eq_ok_iff.1 hvalid
  exact percentage_le ha hr

section

variable [WorkingDirectory]

variable {codec : ImageCodec} {disk : Disk codec} {fs fs' : FileSystem} {report : Report}
  {path : String}

/-! ## What a result holds -/

/-- **What the result of a run's check holds** of the image that was taken, of the baseline that was
there before, and of what was found. -/
structure Found (r : RunRequest) (codec : ImageCodec) (p : Policy) (now : Instant)
    (action : Action) (key : BaselineKey) (fs : FileSystem) (result : CheckResult) : Prop where
  action_eq : result.action = action
  name_eq : result.baselineName = key
  checkedAt_eq : result.checkedAt = now
  percentage : result.diffPercentage.isFinite = true
  checkpoint : r.Captures codec p fs result.checkpoint
  baseline : ∀ img, result.baseline = some img ↔ codec.Holds fs (r.baselineFile p key) img
  compared : result.diff.isSome = result.passed.isSome
  dimensions : ∀ img, result.diff = some img → img.dimensions = result.checkpoint.dimensions
  verdict : ∀ same, result.passed = some same →
    result.verdict = some (same ^^ decide (action = .checkInequality))

/-- A file holds one image at most. -/
theorem holds_unique {b b' : Image} (h : codec.Holds fs (r.baselineFile p key) b)
    (h' : codec.Holds fs (r.baselineFile p key) b') : b = b' := by
  have hload := load_eq_some_iff.2 h
  rw [load_eq_some_iff.2 h'] at hload
  exact (Option.some.inj (Except.ok.inj hload)).symm

/-- Where a file holds an image, this is the one that it holds. -/
theorem eq_iff_holds {b img : Image} (h : codec.Holds fs (r.baselineFile p key) b) :
    some b = some img ↔ codec.Holds fs (r.baselineFile p key) img := by
  constructor
  · intro heq
    rwa [← Option.some.inj heq]
  · exact fun himg => congrArg some (holds_unique h himg)

/-- A baseline that cannot be read counts as none, and so does a file that holds no image. -/
theorem readable_iff_holds {img : Image} :
    ((r.directory p).load codec key fs).toOption.getD none = some img ↔
      codec.Holds fs (r.baselineFile p key) img := by
  rw [← load_eq_some_iff]
  rcases (r.directory p).load codec key fs with fault | loaded
  · exact ⟨fun h => (by cases h), fun h => (by cases h)⟩
  · exact ⟨congrArg Except.ok, Except.ok.inj⟩

/-- **Whatever the check of a run does, its result holds what was found.** -/
theorem Checked.found (h : r.Checked disk p now id context action key fs (.ok result) fs') :
    r.Found codec p now action key fs result := by
  have hzero : (0 : Float).isFinite = true := (Double.below_ofNat (n := 0) (by decide)).isFinite
  have hhundred : (100 : Float).isFinite = true :=
    (Double.below_ofNat (n := 100) (by decide)).isFinite
  cases h with
  | @established c haction hc hsave =>
    exact ⟨rfl, rfl, rfl, hzero, hc, fun _ => readable_iff_holds, rfl, fun img h => (by cases h),
      fun same h => (by cases h)⟩
  | @missing c haction hc hload =>
    refine ⟨rfl, rfl, rfl, hzero, hc, fun img => ?_, rfl, fun img h => (by cases h),
      fun same h => (by cases h)⟩
    rw [← load_eq_some_iff, hload]
    exact ⟨fun h => (by cases h), fun h => (by cases h)⟩
  | @judged c b _ haction hc hb hjudge =>
    have hbaseline : ∀ img, some b = some img ↔ codec.Holds fs (r.baselineFile p key) img :=
      fun _ => eq_iff_holds hb
    obtain ⟨found, hfound, rfl⟩ | ⟨-, rfl⟩ := Engine.judge_cases hjudge
    · refine ⟨rfl, rfl, rfl, Comparer.isFinite_percentage hfound, hc, hbaseline, rfl,
        fun img h => ?_, fun same h => ?_⟩
      · obtain rfl := Option.some.inj h
        rw [(Comparer.findings_of_compare hfound).2.1]
        rfl
      · obtain rfl := Option.some.inj h
        rw [CheckResult.verdict_compared]
        show action.verdict found.passed = _
        rw [Action.verdict_eq haction]
        cases action <;> rfl
    · exact ⟨rfl, rfl, rfl, hhundred, hc, hbaseline, rfl, fun img h => (by cases h),
        fun same h => (by cases h)⟩

/-- The differences have pixels if the image that was taken has. -/
theorem Found.isEmpty_diff (h : r.Found codec p now action key fs result)
    (hsolid : result.checkpoint.isEmpty = false) {img : Image} (hdiff : result.diff = some img) :
    img.isEmpty = false := by
  obtain ⟨hw, hh⟩ := Prod.mk.inj (h.dimensions img hdiff)
  unfold Image.isEmpty Image.pixelCount at hsolid ⊢
  rw [hw, hh]
  exact hsolid

/-- The check of a run changes no files but those of the baseline. -/
theorem Checked.changesOnly_baseline {ended : Except CheckFault CheckResult}
    (h : r.Checked disk p now id context action key fs ended fs') :
    ChangesOnly (fun q => q = r.baselineFile p key ∨ q = (r.directory p).temporaryPath key) fs
      fs' := by
  cases h with
  | unsaved haction hc | established haction hc => exact disk.changesOnly_save _ _ _ _
  | noImage | unreadable | missing | judged => exact ChangesOnly.refl _ _

/-! ## Whether there is a report -/

/-- **Nothing is in the way of the attachments of a run**: their files can be written, and they are
apart from each other and from the files of the baseline. -/
structure Unobstructed (r : RunRequest) (p : Policy) (fs : FileSystem) : Prop where
  writable : ∀ text, r.diffOut = some text ∨ r.reportOut = some text →
    AttachmentFiles.Writable text fs
  distinct : ∀ other path, r.diffOut = some other → r.reportOut = some path →
    (FilePath.ofText path).Apart (.ofText other)
  apart : ∀ key q, BaselineKey.parse r.baseline = .ok key →
    AttachmentFiles.Names ⟨r.diffOut, r.reportOut⟩ q →
    q.Apart (r.baselineFile p key) ∧ q.Apart ((r.directory p).temporaryPath key)

/-- What is attached is apart from all that the check may change. -/
theorem Unobstructed.apart_of_names (h : r.Unobstructed p fs)
    (hkey : BaselineKey.parse r.baseline = .ok key) {q other : FilePath}
    (hq : AttachmentFiles.Names ⟨r.diffOut, r.reportOut⟩ q)
    (hother : other = r.baselineFile p key ∨ other = (r.directory p).temporaryPath key) :
    q.Apart other := by
  obtain rfl | rfl := hother
  · exact (h.apart key q hkey hq).1
  · exact (h.apart key q hkey hq).2

/-- The check leaves the files of the attachments as they are. -/
theorem Unobstructed.node?_of_checked (h : r.Unobstructed p fs)
    (hkey : BaselineKey.parse r.baseline = .ok key) {ended : Except CheckFault CheckResult}
    (hchecked : r.Checked disk p now id context action key fs ended fs') {q : FilePath}
    (hq : AttachmentFiles.Names ⟨r.diffOut, r.reportOut⟩ q) {bytes : List UInt8} :
    fs'.node? q.place = some (.file bytes) ↔ fs.node? q.place = some (.file bytes) := by
  refine hchecked.changesOnly_baseline.node?_eq_file_iff ?_
  rintro ⟨other, hother, hplace⟩
  exact (h.apart_of_names hkey hq hother).ne hplace

/-- The attachments can still be written after the check. -/
theorem Unobstructed.writable_of_checked (h : r.Unobstructed p fs)
    (hkey : BaselineKey.parse r.baseline = .ok key) {ended : Except CheckFault CheckResult}
    (hchecked : r.Checked disk p now id context action key fs ended fs')
    (hpath : r.diffOut = some path ∨ r.reportOut = some path) :
    AttachmentFiles.Writable path fs' := by
  refine AttachmentFiles.writable_of_changesOnly (h.writable path hpath)
    hchecked.changesOnly_baseline fun other hother => ?_
  exact h.apart_of_names hkey ⟨path, hpath, rfl⟩ hother

/-- **A result of an image with pixels is reported**, if nothing is in the way. -/
theorem Checked.exists_publishes (hcodec : codec.Lossless)
    (hsolid : ∀ bytes img, codec.decode bytes = .ok img → img.isEmpty = false)
    (hfree : r.Unobstructed p fs) (hkey : BaselineKey.parse r.baseline = .ok key)
    (h : r.Checked disk p now id context action key fs (.ok result) fs')
    (hpath : r.reportOut = some path) (hpixels : result.checkpoint.isEmpty = false) :
    ∃ report,
      AttachmentFiles.Publishes ⟨r.diffOut, r.reportOut⟩ codec result fs' path report := by
  have hfound := h.found
  have hdiff : ∀ img, result.diff = some img → img.isEmpty = false :=
    fun img => hfound.isEmpty_diff hpixels
  have hbaseline : ∀ img, result.baseline = some img → img.isEmpty = false := by
    intro img himg
    obtain ⟨bytes, -, hdecode⟩ := (hfound.baseline img).1 himg
    exact hsolid bytes img hdecode
  refine AttachmentFiles.exists_publishes hcodec hpath
    (CheckResult.exists_toReport hcodec hpixels hdiff hbaseline) hdiff
    (hfree.writable_of_checked hkey h (.inr hpath)) fun other hother => ?_
  exact ⟨hfree.writable_of_checked hkey h (.inl hother), hfree.distinct other path hother hpath⟩

/-! ## Runs with a report -/

/-- **A run writes a report**: its check has a result, and the report of this is written. -/
def Reports (r : RunRequest) (codec : ImageCodec) (p : Policy) (now : Instant) (id : CheckId)
    (action : Action) (fs : FileSystem) (path : String) (report : Report) : Prop :=
  ∃ context key result s, r.context = some context ∧ BaselineKey.parse r.baseline = .ok key ∧
    perform (r.collaborators codec p)
      (Engine.execute ⟨r.policy p⟩ now (r.check p id context action key)) ⟨.standard, fs⟩ =
      (some (.ok result), s) ∧
    AttachmentFiles.Publishes ⟨r.diffOut, r.reportOut⟩ codec result s.world path report

/-- **The check of a run fails** for a reason that is no fault of the request. -/
def CheckFails (r : RunRequest) (codec : ImageCodec) (p : Policy) (now : Instant) (id : CheckId)
    (action : Action) (fs : FileSystem) : Prop :=
  ∃ context key fault s, r.context = some context ∧ BaselineKey.parse r.baseline = .ok key ∧
    perform (r.collaborators codec p)
      (Engine.execute ⟨r.policy p⟩ now (r.check p id context action key)) ⟨.standard, fs⟩ =
      (some (.error fault), s) ∧
    fault.isConfiguration = false

/-- **What a report tells** of a run, of whether it passed, and of the files before and after. -/
structure Tells (r : RunRequest) (codec : ImageCodec) (p : Policy) (action : Action)
    (key : BaselineKey) (fs after : FileSystem) (b : Bool) (report : Report) : Prop where
  action_eq : report.action = action
  name_eq : report.baselineName = key.text
  /-- Of a baseline that is established there is no verdict, and the run passes. -/
  verdict_of_establish : action = .establish → report.verdict = none ∧ b = true
  verdict_of_ne : action ≠ .establish → report.verdict = some b
  verdict_of_passed : ∀ same, report.passed = some same →
    report.verdict = some (same ^^ decide (action = .checkInequality))
  compared : report.diffPng.isSome = report.passed.isSome
  checkpoint : ∃ c, r.Captures codec p fs c ∧ codec.Embeds report.checkpointPng c
  baseline : ∀ text, report.baselinePng = some text →
    ∃ b, codec.Holds fs (r.baselineFile p key) b ∧ codec.Embeds text b
  no_baseline : report.baselinePng = none → ∀ b, ¬ codec.Holds fs (r.baselineFile p key) b
  diff : ∀ text other, report.diffPng = some text → r.diffOut = some other →
    ∃ img, codec.Holds after (.ofText other) img ∧ codec.Embeds text img
  /-- Without differences nothing is written to their file. -/
  no_diff : report.diffPng = none → ∀ other bytes, r.diffOut = some other →
    (after.node? (FilePath.ofText other).place = some (.file bytes) ↔
      fs.node? (FilePath.ofText other).place = some (.file bytes))

/-- Written down and read again a report tells the same. -/
theorem Tells.asRead {after : FileSystem} {b : Bool}
    (h : r.Tells codec p action key fs after b report) :
    r.Tells codec p action key fs after b report.asRead :=
  { h with }

/-- **A run whose check has a result** returns whether this passes and publishes it. -/
theorem run_of_result {s : Shared FileSystem} (hcontext : r.context = some context)
    (hkey : BaselineKey.parse r.baseline = .ok key)
    (hperform : perform (r.collaborators codec p)
      (Engine.execute ⟨r.policy p⟩ now (r.check p id context action key)) ⟨.standard, fs⟩ =
      (some (.ok result), s)) :
    r.run codec p now id action fs = (.ok (Step.passes result),
        AttachmentFiles.publish ⟨r.diffOut, r.reportOut⟩ codec result s.world) ∧
      r.Checked (.willing codec) p now id context action key fs (.ok result) s.world := by
  have hpercentage := percentages_of_result hperform
  constructor
  · rw [run_eq hpercentage hcontext, hkey]
    dsimp only
    rw [hperform]
  · obtain ⟨ended, fs', hended, hchecked⟩ :=
      exists_checked hpercentage (.willing codec) p now id context action key fs
    have hsame : (some (.ok result), s) = (some ended, ⟨r.composer p, fs'⟩) :=
      hperform.symm.trans hended
    obtain ⟨hresult, rfl⟩ := Prod.mk.inj hsame
    obtain rfl := Option.some.inj hresult
    exact hchecked

/-! ## What a report tells -/

section

variable (hfound : r.Found codec p now action key fs result) (htold : result.ToldBy codec report)

include hfound htold

/-- Of a baseline that is established the report tells no verdict, and the run passes. -/
theorem verdict_of_establish (haction : action = .establish) :
    report.verdict = none ∧ Step.passes result = true := by
  have hresult : result.action = .establish := hfound.action_eq.trans haction
  refine ⟨?_, Step.passes_iff.2 (.inl hresult)⟩
  rw [htold.verdict_eq]
  exact if_pos hresult

/-- Of any other check the report tells whether the run passes. -/
theorem verdict_of_ne_establish (haction : action ≠ .establish)
    (hverdict : ∃ v, result.verdict = some v) : report.verdict = some (Step.passes result) := by
  obtain ⟨v, hv⟩ := hverdict
  have hpasses : Step.passes result = true ↔ v = true := by
    rw [Step.passes_iff, hfound.action_eq, hv, Option.some.injEq]
    exact or_iff_right haction
  rw [htold.verdict_eq, hv, Bool.eq_iff_iff.2 hpasses]

/-- Of a comparison the report tells the verdict of the action. -/
theorem verdict_of_passed {same : Bool} (hsame : report.passed = some same) :
    report.verdict = some (same ^^ decide (action = .checkInequality)) := by
  rw [htold.verdict_eq]
  exact hfound.verdict same (htold.passed_eq ▸ hsame)

/-- The image in the report is the one that was taken. -/
theorem embeds_checkpoint (hcodec : codec.Lossless) :
    ∃ c, r.Captures codec p fs c ∧ codec.Embeds report.checkpointPng c :=
  ⟨_, hfound.checkpoint, embeds_of_encodeImage hcodec htold.checkpoint⟩

/-- The baseline in the report is the one that was there before. -/
theorem embeds_baseline (hcodec : codec.Lossless) {text : String}
    (htext : report.baselinePng = some text) :
    ∃ b, codec.Holds fs (r.baselineFile p key) b ∧ codec.Embeds text b := by
  obtain ⟨-, hnone⟩ | ⟨img, text', himg, htext', hencode⟩ := encodeImage?_eq_ok htold.baseline
  · rw [hnone] at htext
    cases htext
  · rw [htext'] at htext
    obtain rfl := Option.some.inj htext
    exact ⟨img, (hfound.baseline img).1 himg, embeds_of_encodeImage hcodec hencode⟩

/-- Without a baseline in the report there was none before. -/
theorem not_holds_of_no_baseline (htext : report.baselinePng = none) (b : Image) :
    ¬ codec.Holds fs (r.baselineFile p key) b := by
  intro hholds
  obtain ⟨hnone, -⟩ | ⟨img, text', himg, htext', hencode⟩ := encodeImage?_eq_ok htold.baseline
  · rw [(hfound.baseline b).2 hholds] at hnone
    cases hnone
  · rw [htext'] at htext
    cases htext

omit hfound [WorkingDirectory] in
/-- There are differences in the report exactly if there are some in the result. -/
theorem isSome_diffPng : report.diffPng.isSome = result.diff.isSome := by
  obtain ⟨hnone, htext⟩ | ⟨img, text, himg, htext, -⟩ := encodeImage?_eq_ok htold.diff
  · rw [hnone, htext]
    rfl
  · rw [himg, htext]
    rfl

omit hfound in
/-- The differences in the report are those in their file. -/
theorem embeds_diff (hcodec : codec.Lossless) (hfree : r.Unobstructed p fs)
    (hpublishes : AttachmentFiles.Publishes ⟨r.diffOut, r.reportOut⟩ codec result fs' path report)
    {text other : String} (htext : report.diffPng = some text) (hother : r.diffOut = some other) :
    ∃ img, codec.Holds (AttachmentFiles.publish ⟨r.diffOut, r.reportOut⟩ codec result fs')
      (.ofText other) img ∧ codec.Embeds text img := by
  obtain ⟨-, hnone⟩ | ⟨img, text', himg, htext', hencode⟩ := encodeImage?_eq_ok htold.diff
  · rw [hnone] at htext
    cases htext
  · rw [htext'] at htext
    obtain rfl := Option.some.inj htext
    have hne := (hfree.distinct other path hother hpublishes.asked).ne
    exact ⟨img, hpublishes.holds_diff hcodec hother himg hne.symm,
      embeds_of_encodeImage hcodec hencode⟩

omit hfound in
/-- Without differences in the report their file stays as it is. -/
theorem node?_of_no_diff (hfree : r.Unobstructed p fs)
    (hkey : BaselineKey.parse r.baseline = .ok key)
    (hchecked : r.Checked disk p now id context action key fs (.ok result) fs')
    (htext : report.diffPng = none) {other : String} (hother : r.diffOut = some other)
    {bytes : List UInt8} :
    (AttachmentFiles.publish ⟨r.diffOut, r.reportOut⟩ codec result fs').node?
        (FilePath.ofText other).place = some (.file bytes) ↔
      fs.node? (FilePath.ofText other).place = some (.file bytes) := by
  have hnone : result.diff = none := by
    have hsome := isSome_diffPng htold
    rw [htext] at hsome
    exact Option.not_isSome_iff_eq_none.1 (by rw [← hsome]; exact Bool.false_ne_true)
  refine (AttachmentFiles.node?_publish_of_no_diff hnone fun path' hpath' => ?_).trans
    (hfree.node?_of_checked hkey hchecked ⟨other, .inl hother, rfl⟩)
  exact (hfree.distinct other path' hother hpath').ne.symm

end

/-- **A report that is written tells what the run did.** -/
theorem tells_of_publishes (hcodec : codec.Lossless) (hfree : r.Unobstructed p fs)
    (hkey : BaselineKey.parse r.baseline = .ok key)
    (hverdict : action ≠ .establish → ∃ v, result.verdict = some v)
    (hchecked : r.Checked disk p now id context action key fs (.ok result) fs')
    (hpublishes : AttachmentFiles.Publishes ⟨r.diffOut, r.reportOut⟩ codec result fs' path report) :
    r.Tells codec p action key fs
      (AttachmentFiles.publish ⟨r.diffOut, r.reportOut⟩ codec result fs') (Step.passes result)
      report := by
  have hfound := hchecked.found
  have htold := CheckResult.toldBy_of_toReport hpublishes.made
  constructor
  case action_eq => exact htold.action_eq.trans hfound.action_eq
  case name_eq => exact htold.name_eq.trans (congrArg BaselineKey.text hfound.name_eq)
  case verdict_of_establish => exact verdict_of_establish hfound htold
  case verdict_of_ne => exact fun hne => verdict_of_ne_establish hfound htold hne (hverdict hne)
  case verdict_of_passed => exact fun _ => verdict_of_passed hfound htold
  case compared =>
    rw [isSome_diffPng htold, htold.passed_eq, hfound.compared]
  case checkpoint => exact embeds_checkpoint hfound htold hcodec
  case baseline => exact fun _ => embeds_baseline hfound htold hcodec
  case no_baseline => exact not_holds_of_no_baseline hfound htold
  case diff => exact fun _ _ => embeds_diff htold hcodec hfree hpublishes
  case no_diff =>
    exact fun htext _ _ hother => node?_of_no_diff htold hfree hkey hchecked htext hother

/-- **The report that is written is read back.** -/
theorem reportOf?_of_publishes (hnow : now.Proper)
    (hchecked : r.Checked disk p now id context action key fs (.ok result) fs')
    (hpublishes : AttachmentFiles.Publishes ⟨r.diffOut, r.reportOut⟩ codec result fs' path report) :
    AttachmentFiles.reportOf? (AttachmentFiles.reportText report).toUTF8.toList =
      some report.asRead := by
  have hfound := hchecked.found
  have htold := CheckResult.toldBy_of_toReport hpublishes.made
  refine AttachmentFiles.reportOf?_reportText ?_ ?_
  · rwa [htold.checkedAt_eq, hfound.checkedAt_eq]
  · rw [htold.percentage_eq]
    exact hfound.percentage

/-- **A run that writes no report leaves its file as it is.** -/
theorem Ran.node?_of_no_report {answer : Except CheckFault Bool} {after : FileSystem}
    (h : r.Ran (.willing codec) p now id action fs answer after) (hpath : r.reportOut = some path)
    (hfree : r.Unobstructed p fs)
    (hnone : ∀ report, ¬ r.Reports codec p now id action fs path report) {bytes : List UInt8} :
    after.node? (FilePath.ofText path).place = some (.file bytes) ↔
      fs.node? (FilePath.ofText path).place = some (.file bytes) := by
  have hnames : AttachmentFiles.Names ⟨r.diffOut, r.reportOut⟩ (.ofText path) :=
    ⟨path, .inr hpath, rfl⟩
  cases h with
  | refused | skipped => exact Iff.rfl
  | failed hcontext hkey hperform hchecked => exact hfree.node?_of_checked hkey hchecked hnames
  | settled hcontext hkey hperform hchecked =>
    refine (AttachmentFiles.node?_publish_of_not_publishes hpath ?_ ?_).trans
      (hfree.node?_of_checked hkey hchecked hnames)
    · exact fun report h => hnone report ⟨_, _, _, _, hcontext, hkey, hperform, h⟩
    · exact fun other hother => (hfree.distinct other path hother hpath).ne

/-- **Why a run that returns whether it passed writes no report**: its check failed, and so did the
run, or the image that was taken has no pixels. -/
theorem Ran.cause_of_no_report {b : Bool} {after : FileSystem} (hcodec : codec.Lossless)
    (hsolid : ∀ bytes img, codec.decode bytes = .ok img → img.isEmpty = false)
    (himages : r.images ≠ []) (hpath : r.reportOut = some path) (hfree : r.Unobstructed p fs)
    (hnone : ∀ report, ¬ r.Reports codec p now id action fs path report)
    (h : r.Ran (.willing codec) p now id action fs (.ok b) after) :
    b = false ∧ r.CheckFails codec p now id action fs ∨
      ∃ c, r.Captures codec p fs c ∧ c.isEmpty = true := by
  cases h with
  | skipped hcontext =>
    obtain ⟨context, hsome⟩ := exists_context himages
    rw [hcontext] at hsome
    cases hsome
  | failed hcontext hkey hperform hchecked hfault =>
    exact .inl ⟨rfl, _, _, _, _, hcontext, hkey, hperform, hfault⟩
  | settled hcontext hkey hperform hchecked =>
    refine .inr ⟨_, hchecked.found.checkpoint, ?_⟩
    by_contra hpixels
    obtain ⟨report, h⟩ := hchecked.exists_publishes hcodec hsolid hfree hkey hpath
      (Bool.eq_false_iff.2 hpixels)
    exact hnone report ⟨_, _, _, _, hcontext, hkey, hperform, h⟩

/-- **The report and the answer of a run agree**, at any time that a clock can tell and where
nothing is in the way of its attachments.  Where a report is written, its file is the text of one,
and what is read there tells what the run returns, what it captured, which baseline was there
before, and which differences were written.  A run that returns whether it passed and writes no
report leaves its file alone, and either its check failed for a reason that is no fault of the
request, and the run did not pass, or it captured an image without pixels. -/
theorem report_agrees (hnow : now.Proper) (id : CheckId) (action : Action)
    (hcodec : codec.Lossless)
    (hsolid : ∀ bytes img, codec.decode bytes = .ok img → img.isEmpty = false)
    (himages : r.images ≠ []) (hpath : r.reportOut = some path) (hfree : r.Unobstructed p fs) :
    (∀ report, r.Reports codec p now id action fs path report →
      ∃ bytes told b key,
        (r.run codec p now id action fs).2.readFile (.ofText path) = .ok bytes ∧
          AttachmentFiles.reportOf? bytes = some told ∧
          (r.run codec p now id action fs).1 = .ok b ∧
          BaselineKey.parse r.baseline = .ok key ∧
          r.Tells codec p action key fs (r.run codec p now id action fs).2 b told) ∧
    ((∀ report, ¬ r.Reports codec p now id action fs path report) →
      (∀ bytes, (r.run codec p now id action fs).2.node? (FilePath.ofText path).place =
          some (.file bytes) ↔ fs.node? (FilePath.ofText path).place = some (.file bytes)) ∧
        ∀ b, (r.run codec p now id action fs).1 = .ok b →
          b = false ∧ r.CheckFails codec p now id action fs ∨
            ∃ c, r.Captures codec p fs c ∧ c.isEmpty = true) := by
  constructor
  · rintro report ⟨context, key, result, s, hcontext, hkey, hperform, hpublishes⟩
    obtain ⟨hrun, hchecked⟩ := run_of_result hcontext hkey hperform
    rw [hrun]
    exact ⟨_, _, Step.passes result, key, hpublishes.readFile,
      reportOf?_of_publishes hnow hchecked hpublishes, rfl, hkey,
      (tells_of_publishes hcodec hfree hkey (Engine.verdict_of_execute hperform).2 hchecked
        hpublishes).asRead⟩
  · intro hnone
    have hran := ran_runOn r (.willing codec) p now id action fs
    rw [runOn_willing] at hran
    refine ⟨fun bytes => hran.node?_of_no_report hpath hfree hnone, fun b hb => ?_⟩
    rw [hb] at hran
    exact Ran.cause_of_no_report hcodec hsolid himages hpath hfree hnone hran

end

namespace HalfChanged

/-- The differences and the report are to be published side by side. -/
def attached : RunRequest :=
  { request with diffOut := some "out/diff.png", reportOut := some "out/report.json" }

theorem unobstructed_attached : attached.Unobstructed {} files where
  writable text htext := by
    obtain h | h := htext
    · obtain rfl := Option.some.inj h
      exact fun _ => rfl
    · obtain rfl := Option.some.inj h
      exact fun _ => rfl
  distinct other path hother hpath := by
    obtain rfl := Option.some.inj hother
    obtain rfl := Option.some.inj hpath
    exact ⟨by decide, by decide, by decide⟩
  apart key q hkey hq := by
    obtain rfl := Except.ok.inj hkey
    obtain ⟨text, h | h, rfl⟩ := hq
    · obtain rfl := Option.some.inj h
      exact ⟨⟨by decide, by decide, by decide⟩, by decide, by decide, by decide⟩
    · obtain rfl := Option.some.inj h
      exact ⟨⟨by decide, by decide, by decide⟩, by decide, by decide, by decide⟩

end HalfChanged

open HalfChanged in
/-- Half of the page may differ and one of its two pixels does: the run passes, and so tells the
report that is read in its file. -/
theorem report_agrees_half_changed :
    (attached.run Png.codec {} ⟨0, 0⟩ ⟨"1"⟩ .compare files).1 = .ok true ∧
      ∃ bytes told,
        (attached.run Png.codec {} ⟨0, 0⟩ ⟨"1"⟩ .compare files).2.readFile
          (.ofText "out/report.json") = .ok bytes ∧
        AttachmentFiles.reportOf? bytes = some told ∧
        told.verdict = some true ∧ told.baselineName = "home" := by
  have hpercentage : ∀ v, attached.percentage = some v → v ≤ 100 := by
    rintro _ ⟨⟩
    decide
  have hnow : Instant.Proper ⟨0, 0⟩ := ⟨by decide, by decide, .inl (by decide)⟩
  have hcaptures : attached.Captures Png.codec {} files page := captures_page
  have htrue : (attached.run Png.codec {} ⟨0, 0⟩ ⟨"1"⟩ .compare files).1 = .ok true := by
    rw [← runOn_willing]
    refine (runOn_eq_true_iff_compares hpercentage rfl (by decide)
      fun _ _ => Png.isEmpty_of_decode).2 ?_
    exact ⟨_, rfl, page, hcaptures, kept, ⟨_, rfl, Png.decode_fileOf rfl⟩, rfl, by decide,
      by decide, .inl ⟨by decide, by decide⟩⟩
  obtain ⟨htells, hnone⟩ := report_agrees hnow ⟨"1"⟩ .compare Png.codec_lossless
    (fun _ _ => Png.isEmpty_of_decode) (List.cons_ne_nil _ _) rfl unobstructed_attached
  refine ⟨htrue, ?_⟩
  by_cases hreports : ∃ report,
      attached.Reports Png.codec {} ⟨0, 0⟩ ⟨"1"⟩ .compare files "out/report.json" report
  · obtain ⟨report, hreport⟩ := hreports
    obtain ⟨bytes, told, b, key, hfile, hread, hb, hkey, htold⟩ := htells report hreport
    rw [htrue] at hb
    obtain rfl := Except.ok.inj hb
    obtain rfl := Except.ok.inj hkey
    exact ⟨bytes, told, hfile, hread, htold.verdict_of_ne (by decide), htold.name_eq⟩
  · obtain ⟨-, hanswer⟩ := hnone (not_exists.1 hreports)
    obtain ⟨hfalse, -⟩ | ⟨c, hc, hempty⟩ := hanswer true htrue
    · cases hfalse
    · -- what was captured is the page, and that has pixels
      have hpage := (candidate_eq_ok.2 hc).symm.trans (candidate_eq_ok.2 hcaptures)
      obtain rfl := Except.ok.inj hpage
      cases hempty

end RunRequest

end VisualRegression
