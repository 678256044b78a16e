import VisualRegression.Proofs.Run.OutputPaths
import VisualRegression.Proofs.Run.Ways

/-!
# What a run leaves alone

A run writes at most the files of its baseline, if it establishes one, that of the differences, if
it finds two images of one size, and that of the report, if its check has a result
(`RunRequest.Writes`).  Whatever the disk refuses, the step from the check to its files and from the
result to its publication changes nothing else (`Checked.changesOnly`, `Checked.writes_of_has`), and
so the run does not.  Main statement: `run_changesOnly`.
-/

namespace VisualRegression

open FileSystem CheckProgram

namespace RunRequest

section

variable [WorkingDirectory]

variable {codec : ImageCodec} {r : RunRequest} {disk : Disk codec} {p : Policy} {now : Instant}
  {id : CheckId} {context : SearchContext} {action : Action} {key : BaselineKey}
  {fs fs' : FileSystem} {result : CheckResult} {path : FilePath}

/-- The check of a run ends with a result. -/
def HasResult (r : RunRequest) (disk : Disk codec) (p : Policy) (now : Instant) (id : CheckId)
    (action : Action) (fs : FileSystem) : Prop :=
  ∃ context key result s, r.context = some context ∧ BaselineKey.parse r.baseline = .ok key ∧
    perform (r.partiesOn p disk)
      (Engine.execute ⟨r.policy p⟩ now (r.check p id context action key)) ⟨.standard, fs⟩ =
      (some (.ok result), s)

/-- **The files that a run may write.** -/
inductive Writes (r : RunRequest) (disk : Disk codec) (p : Policy) (now : Instant) (id : CheckId)
    (action : Action) (fs : FileSystem) : FilePath → Prop
  /-- That of the baseline, if the run took an image to establish it with. -/
  | baseline {key : BaselineKey} {c : Image} (haction : action = .establish)
      (hkey : BaselineKey.parse r.baseline = .ok key) (hc : r.Captures codec p fs c) :
      Writes r disk p now id action fs (r.baselineFile p key)
  /-- The one that is written before it takes the place of that of the baseline. -/
  | temporary {key : BaselineKey} {c : Image} (haction : action = .establish)
      (hkey : BaselineKey.parse r.baseline = .ok key) (hc : r.Captures codec p fs c) :
      Writes r disk p now id action fs ((r.directory p).temporaryPath key)
  /-- That of the differences, if it is asked for and the run found two images of one size. -/
  | diff {path : String} {key : BaselineKey} {c b : Image} (hpath : r.diffOut = some path)
      (haction : action ≠ .establish) (hkey : BaselineKey.parse r.baseline = .ok key)
      (hc : r.Captures codec p fs c) (hb : codec.Holds fs (r.baselineFile p key) b)
      (hsize : b.dimensions = c.dimensions) : Writes r disk p now id action fs (.ofText path)
  /-- That of the report, if it is asked for and the check has a result. -/
  | report {path : String} (hpath : r.reportOut = some path)
      (hresult : r.HasResult disk p now id action fs) :
      Writes r disk p now id action fs (.ofText path)

/-- **The check of a run changes nothing but the files of the baseline**, and those only where it is
to be established and an image was taken. -/
theorem Checked.changesOnly {ended : Except CheckFault CheckResult}
    (hkey : BaselineKey.parse r.baseline = .ok key)
    (h : r.Checked disk p now id context action key fs ended fs') :
    ChangesOnly (r.Writes disk p now id action fs) fs fs' := by
  have hsaved : ∀ {c : Image}, action = .establish → r.Captures codec p fs c →
      ChangesOnly (r.Writes disk p now id action fs) fs
        (disk.save (r.directory p) key c fs).2 := by
    intro c haction hc
    refine (disk.changesOnly_save (r.directory p) key c fs).mono fun path hpath => ?_
    obtain rfl | rfl := hpath
    · exact .baseline haction hkey hc
    · exact .temporary haction hkey hc
  cases h with
  | unsaved haction hc | established haction hc => exact hsaved haction hc
  | noImage | unreadable | missing | judged => exact ChangesOnly.refl _ _

/-- **A result has no files but those that the run may write**: there are differences only of two
images of one size. -/
theorem Checked.writes_of_has (hkey : BaselineKey.parse r.baseline = .ok key)
    (hresult : r.HasResult disk p now id action fs)
    (h : r.Checked disk p now id context action key fs (.ok result) fs')
    (hhas : AttachmentFiles.Has ⟨r.diffOut, r.reportOut⟩ result path) :
    r.Writes disk p now id action fs path := by
  cases hhas with
  | report hpath => exact .report hpath hresult
  | diff hpath hdiff =>
    cases h with
    | established | missing => exact absurd rfl hdiff
    | judged haction hc hb hjudge =>
      obtain ⟨found, hfound, rfl⟩ | ⟨-, rfl⟩ := Engine.judge_cases hjudge
      · exact .diff hpath haction hkey hc hb (Comparer.compare_ok hfound).1.symm
      · exact absurd rfl hdiff

/-- **However a run ends**, it has changed nothing but the files that it may write. -/
theorem Ran.changesOnly {answer : Except CheckFault Bool}
    (h : r.Ran disk p now id action fs answer fs') :
    ChangesOnly (r.Writes disk p now id action fs) fs fs' := by
  cases h with
  | refused | skipped => exact ChangesOnly.refl _ _
  | failed hcontext hkey hperform hchecked hfault => exact hchecked.changesOnly hkey
  | settled hcontext hkey hperform hchecked =>
    have hresult : r.HasResult disk p now id action fs := ⟨_, _, _, _, hcontext, hkey, hperform⟩
    refine (hchecked.changesOnly hkey).trans ((disk.changesOnly_publish _ _ _).mono ?_)
    exact fun path hhas => hchecked.writes_of_has hkey hresult hhas

/-- A run that hands back a fault has changed nothing. -/
theorem Ran.eq_of_error {fault : CheckFault}
    (h : r.Ran disk p now id action fs (.error fault) fs') : fs' = fs := by
  cases h with
  | refused => rfl

/-- A run that compares may write no more than its attachments. -/
theorem names_of_writes (haction : action ≠ .establish)
    (h : r.Writes disk p now id action fs path) :
    AttachmentFiles.Names ⟨r.diffOut, r.reportOut⟩ path := by
  cases h with
  | baseline hestablish | temporary hestablish => exact absurd hestablish haction
  | diff hpath => exact ⟨_, .inl hpath, rfl⟩
  | report hpath => exact ⟨_, .inr hpath, rfl⟩

/-- **What a run changes**, on any disk.  It writes no files but those that it may write, and makes
no directories but those on the way to them; every other file reads as before.  A run that hands
back a fault changes nothing at all, and one that compares neither makes nor changes the file of any
baseline, unless something is published there. -/
theorem run_changesOnly (r : RunRequest) (codec : ImageCodec) (p : Policy) (now : Instant)
    (id : CheckId) (action : Action) (fs : FileSystem) :
    r.run codec p now id action fs = r.runOn (.willing codec) p now id action fs ∧
    ∀ disk : Disk codec,
      let ended := r.runOn disk p now id action fs
      ChangesOnly (r.Writes disk p now id action fs) fs ended.2 ∧
      (∀ path bytes, ¬ Taken (r.Writes disk p now id action fs) path.place →
        fs.readFile path = .ok bytes → ended.2.readFile path = .ok bytes) ∧
      (∀ fault, ended.1 = .error fault → ended.2 = fs) ∧
      (action ≠ .establish → ∀ key bytes,
        ¬ Taken (AttachmentFiles.Names ⟨r.diffOut, r.reportOut⟩) (r.baselineFile p key).place →
        (ended.2.node? (r.baselineFile p key).place = some (.file bytes) ↔
          fs.node? (r.baselineFile p key).place = some (.file bytes))) := by
  refine ⟨rfl, fun disk => ?_⟩
  intro ended
  have hran := ran_runOn r disk p now id action fs
  have hchanges : ChangesOnly (r.Writes disk p now id action fs) fs ended.2 := hran.changesOnly
  refine ⟨hchanges, fun path bytes hpath hread => hchanges.readFile hpath hread, ?_, ?_⟩
  · intro fault hfault
    rw [show (r.runOn disk p now id action fs).1 = .error fault from hfault] at hran
    exact hran.eq_of_error
  · intro haction key bytes hplace
    refine hchanges.node?_eq_file_iff ?_
    rintro ⟨path, hpath, heq⟩
    exact hplace ⟨path, names_of_writes haction hpath, heq⟩

end

namespace HalfChanged

/-- The differences are to be published next to the baseline. -/
def besides : RunRequest := { request with diffOut := some "/w/baselines/diff.png" }

/-- A percentage that is none. -/
def beyond : RunRequest := { request with percentage := some 101 }

end HalfChanged

open HalfChanged in
/-- A comparison that publishes its differences next to the baseline leaves this alone, and the page
too.  With a percentage that is none the run changes nothing. -/
theorem run_changesOnly_half_changed :
    ((besides.run Png.codec {} ⟨0, 0⟩ ⟨"1"⟩ .compare files).2.node? ["w", "baselines", "home.png"] =
        some (.file (Png.fileOf kept)) ∧
      (besides.run Png.codec {} ⟨0, 0⟩ ⟨"1"⟩ .compare files).2.readFile (.ofText "page.png") =
        .ok (Png.fileOf page)) ∧
    (beyond.run Png.codec {} ⟨0, 0⟩ ⟨"1"⟩ .establish files).2 = files := by
  have hnames : ∀ path, AttachmentFiles.Names ⟨besides.diffOut, besides.reportOut⟩ path →
      path = .ofText "/w/baselines/diff.png" := by
    rintro path ⟨text, hpath | hpath, rfl⟩
    · obtain rfl := Option.some.inj hpath
      rfl
    · cases hpath
  obtain ⟨hwilling, hdisk⟩ := run_changesOnly besides Png.codec {} ⟨0, 0⟩ ⟨"1"⟩ .compare files
  obtain ⟨-, hread, -, hbaseline⟩ := hdisk (.willing Png.codec)
  rw [← hwilling] at hread hbaseline
  obtain ⟨hwilling', hdisk'⟩ := run_changesOnly beyond Png.codec {} ⟨0, 0⟩ ⟨"1"⟩ .establish files
  obtain ⟨-, -, herror, -⟩ := hdisk' (.willing Png.codec)
  rw [← hwilling'] at herror
  refine ⟨⟨(hbaseline (by decide) ⟨"home"⟩ _ ?_).2 rfl, hread _ _ ?_ rfl⟩, herror _ rfl⟩
  · rintro ⟨path, hpath, hplace⟩
    obtain rfl := hnames path hpath
    exact absurd hplace (by decide)
  · rintro ⟨path, hpath, hplace⟩
    obtain rfl := hnames path (names_of_writes (by decide) hpath)
    exact absurd hplace (by decide)

end RunRequest

end VisualRegression
