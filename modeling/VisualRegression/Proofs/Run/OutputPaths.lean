import VisualRegression.Proofs.Run.Outcome

/-!
# Where a run publishes

A result is published after the check has come to its end, and nothing comes back from that.  So the
answer of a run is the same wherever its result is to go and however publication turns out, and the
files that it leaves differ at most where a result is published and on the way there
(`AttachmentFiles.Affects`).  Main statement: `run_publishTo`.
-/

namespace VisualRegression

open FileSystem

namespace AttachmentFiles

/-- The path is one that something may be published at. -/
def Names (files : AttachmentFiles) (p : FilePath) : Prop :=
  ∃ path, (files.diffOut = some path ∨ files.reportOut = some path) ∧ p = .ofText path

theorem names_of_has {files : AttachmentFiles} {r : CheckResult} {p : FilePath}
    (h : files.Has r p) : files.Names p := by
  cases h with
  | diff hpath hdiff => exact ⟨_, .inl hpath, rfl⟩
  | report hpath => exact ⟨_, .inr hpath, rfl⟩

theorem not_names_nothing (p : FilePath) : ¬ Names ⟨none, none⟩ p := by
  rintro ⟨path, hpath | hpath, -⟩
  · cases hpath
  · cases hpath

end AttachmentFiles

section

variable [WorkingDirectory]

namespace AttachmentFiles

/-- **Publication may get at a place**: something is to be published there, or the place is on the
way to that and nothing is there yet. -/
def Affects (files : AttachmentFiles) (fs : FileSystem) (place : Place) : Prop :=
  Taken files.Names place ∨ OnTheWay files.Names place ∧ fs.node? place = none

/-- Publication stays away from a directory of baselines, from all that is in it, and from the way
to it. -/
def Spares (files : AttachmentFiles) (d : BaselineDirectory) (fs : FileSystem) : Prop :=
  ∀ place, place ∈ placesAlong d.directory ∨ d.directory.place <+: place → ¬ files.Affects fs place

theorem not_affects_nothing (fs : FileSystem) (place : Place) :
    ¬ Affects ⟨none, none⟩ fs place := by
  rintro (⟨p, hp, -⟩ | ⟨⟨p, hp, -⟩, -⟩)
  · exact not_names_nothing p hp
  · exact not_names_nothing p hp

end AttachmentFiles

/-- The file of a baseline is in the directory, at the end of the way to it. -/
theorem BaselineDirectory.mem_placesAlong_filePath {d : BaselineDirectory} {key : BaselineKey}
    {place : Place} (h : place ∈ placesAlong (d.filePath key)) :
    place ∈ placesAlong d.directory ∨ d.directory.place <+: place := by
  have hparts : (d.filePath key).parts =
      d.directory.parts ++ [d.directory.entry (BaselineFile.kept.name key)] := rfl
  rw [placesAlong, hparts, go_append] at h
  obtain h | h := List.mem_append.1 h
  · exact .inl h
  · -- the last place is that of the file
    have hplace : place = (d.filePath key).place := by
      rw [FilePath.place, hparts, walk_append]
      exact List.mem_singleton.1 h
    exact .inr ⟨_, ((place_path d .kept key).symm.trans hplace.symm)⟩

namespace RunRequest

variable {codec : ImageCodec} {r : RunRequest} {disk : Disk codec} {p : Policy} {now : Instant}
  {id : CheckId} {action : Action} {fs : FileSystem}

/-- The run that publishes elsewhere. -/
def publishTo (r : RunRequest) (files : AttachmentFiles) : RunRequest :=
  { r with diffOut := files.diffOut, reportOut := files.reportOut }

/-- **Events are noted whatever becomes of a publication**, and nothing changes but what is
published. -/
theorem foldl_noteOn (r : RunRequest) (disk : Disk codec) (events : List StepEvent)
    (a : SoftAssert) (fs : FileSystem) :
    (events.foldl (r.noteOn disk) (a, fs)).1 = events.foldl SoftAssert.note a ∧
      ChangesOnly (AttachmentFiles.Names ⟨r.diffOut, r.reportOut⟩) fs
        (events.foldl (r.noteOn disk) (a, fs)).2 := by
  induction events generalizing a fs with
  | nil => exact ⟨rfl, ChangesOnly.refl _ _⟩
  | cons e rest ih =>
    obtain ⟨hnoted, hrest⟩ := ih (r.noteOn disk (a, fs) e).1 (r.noteOn disk (a, fs) e).2
    have hfirst : ChangesOnly (AttachmentFiles.Names ⟨r.diffOut, r.reportOut⟩) fs
        (r.noteOn disk (a, fs) e).2 := by
      cases e with
      | published result =>
        exact (disk.changesOnly_publish _ result fs).mono fun _ => AttachmentFiles.names_of_has
      | asserted description condition => exact ChangesOnly.refl _ _
      | failed message => exact ChangesOnly.refl _ _
    exact ⟨hnoted, hfirst.trans hrest⟩

theorem runOn_of_run {outcome : StepOutcome} {s : Shared FileSystem}
    (h : (r.step p now id action).run (r.partiesOn p disk) ⟨.standard, fs⟩ = (some outcome, s)) :
    r.runOn disk p now id action fs =
      (outcome.returned.map fun _ => (r.settleOn disk outcome.events s.world).1.allPassed,
        (r.settleOn disk outcome.events s.world).2) := by
  unfold runOn
  rw [h]
  dsimp only
  rcases outcome.returned with fault | ⟨⟩
  · rfl
  · rfl

theorem runOn_of_brokenOff {s : Shared FileSystem}
    (h : (r.step p now id action).run (r.partiesOn p disk) ⟨.standard, fs⟩ = (none, s)) :
    r.runOn disk p now id action fs = (.error .brokenOff, s.world) := by
  unfold runOn
  rw [h]

/-- **A run has its answer before anything is published**: there are an answer and files such that,
wherever it publishes, it gives this answer and changes these files nowhere else. -/
theorem exists_before_publication (r : RunRequest) (disk : Disk codec) (p : Policy) (now : Instant)
    (id : CheckId) (action : Action) (fs : FileSystem) :
    ∃ answer before, ∀ files, ((r.publishTo files).runOn disk p now id action fs).1 = answer ∧
      ChangesOnly files.Names before ((r.publishTo files).runOn disk p now id action fs).2 := by
  rcases hrun : (r.step p now id action).run (r.partiesOn p disk) ⟨.standard, fs⟩ with
    ⟨_ | outcome, s⟩
  · refine ⟨.error .brokenOff, s.world, fun files => ?_⟩
    -- neither the step nor the parties know where the run publishes
    have hsame : (r.publishTo files).runOn disk p now id action fs = _ := runOn_of_brokenOff hrun
    rw [hsame]
    exact ⟨rfl, ChangesOnly.refl _ _⟩
  · refine ⟨outcome.returned.map fun _ => (outcome.events.foldl SoftAssert.note {}).allPassed,
      s.world, fun files => ?_⟩
    obtain ⟨hnoted, hchanges⟩ := foldl_noteOn (r.publishTo files) disk outcome.events {} s.world
    have hsame : (r.publishTo files).runOn disk p now id action fs = _ := runOn_of_run hrun
    rw [hsame, settleOn, hnoted]
    exact ⟨rfl, hchanges⟩

/-- **Where a run publishes makes no difference to its answer**, whatever saves and publications
come to on a disk that may refuse: for any two choices of files the same is returned.  The files
that are left differ at most where something is published and on the way there, as far as nothing
was there; and if that is away from the directory of the baselines, this has the same content, and
all baselines are loaded the same. -/
theorem run_publishTo (r : RunRequest) (codec : ImageCodec) (p : Policy) (now : Instant)
    (id : CheckId) (action : Action) (fs : FileSystem) :
    (∀ files, (r.publishTo files).run codec p now id action fs =
      (r.publishTo files).runOn (.willing codec) p now id action fs) ∧
    ∀ (disk : Disk codec) (files files' : AttachmentFiles),
      let ended := (r.publishTo files).runOn disk p now id action fs
      let ended' := (r.publishTo files').runOn disk p now id action fs
      let unpublished := ((r.publishTo ⟨none, none⟩).runOn disk p now id action fs).2
      ended.1 = ended'.1 ∧
      (∀ place, ¬ files.Affects unpublished place → ¬ files'.Affects unpublished place →
        ended.2.node? place = ended'.2.node? place) ∧
      (files.Spares (r.directory p) unpublished → files'.Spares (r.directory p) unpublished →
        (∀ place, (r.directory p).directory.place <+: place →
          ended.2.node? place = ended'.2.node? place) ∧
        ∀ key,
          (r.directory p).load codec key ended.2 = (r.directory p).load codec key ended'.2) := by
  refine ⟨fun _ => rfl, fun disk files files' => ?_⟩
  intro ended ended' unpublished
  obtain ⟨answer, before, hbefore⟩ := exists_before_publication r disk p now id action fs
  -- a run that publishes nothing leaves the files as they are before publication
  have hplain : ∀ place, unpublished.node? place = before.node? place := by
    intro place
    have hnothing := not_or.1 (AttachmentFiles.not_affects_nothing before place)
    exact (hbefore ⟨none, none⟩).2.node?_eq hnothing.1 hnothing.2
  have hsame : ∀ (chosen : AttachmentFiles) (place : Place),
      ¬ chosen.Affects unpublished place →
      ((r.publishTo chosen).runOn disk p now id action fs).2.node? place = before.node? place := by
    intro chosen place hplace
    obtain ⟨htaken, hway⟩ := not_or.1 hplace
    refine (hbefore chosen).2.node?_eq htaken ?_
    rw [← hplain place]
    exact hway
  have hnode : ∀ place, ¬ files.Affects unpublished place → ¬ files'.Affects unpublished place →
      ended.2.node? place = ended'.2.node? place := by
    intro place hfiles hfiles'
    exact (hsame files place hfiles).trans (hsame files' place hfiles').symm
  refine ⟨(hbefore files).1.trans (hbefore files').1.symm, hnode, fun hspares hspares' => ?_⟩
  refine ⟨fun place hplace => ?_, fun key => ?_⟩
  · exact hnode place (hspares place (.inr hplace)) (hspares' place (.inr hplace))
  · refine BaselineDirectory.load_congr (readFile_congr_along fun place hplace => ?_)
    have hdirectory := BaselineDirectory.mem_placesAlong_filePath hplace
    exact hnode place (hspares place hdirectory) (hspares' place hdirectory)

end RunRequest

end

namespace RunRequest

namespace HalfChanged

/-- The differences are to be published at a path that the way to the report goes through. -/
def inTheWay : AttachmentFiles := ⟨some "/w/out", some "out/report.json"⟩

theorem spares_inTheWay (fs : FileSystem) : inTheWay.Spares (request.directory {}) fs := by
  have hnames : ∀ p, inTheWay.Names p → p = .ofText "/w/out" ∨ p = .ofText "out/report.json" := by
    rintro p ⟨path, hpath | hpath, rfl⟩
    · obtain rfl := Option.some.inj hpath
      exact .inl rfl
    · obtain rfl := Option.some.inj hpath
      exact .inr rfl
  have hbaselines : (request.directory {}).directory.place = ["w", "baselines"] := by decide
  have hway : placesAlong (request.directory {}).directory = [["w", "baselines"]] := by decide
  have hdirectory : ∀ place, place ∈ placesAlong (request.directory {}).directory ∨
      (request.directory {}).directory.place <+: place → place.take 2 = ["w", "baselines"] := by
    rw [hbaselines, hway]
    rintro place (hplace | ⟨rest, rfl⟩)
    · rw [List.mem_singleton.1 hplace]
      rfl
    · rfl
  intro place hplace haffects
  have htake := hdirectory place hplace
  obtain ⟨p, hp, rfl⟩ | ⟨⟨p, hp, hmem⟩, -⟩ := haffects
  · obtain rfl | rfl := hnames p hp
    · exact absurd htake (by decide)
    · exact absurd htake (by decide)
  · have hothers : ∀ other ∈ placesAlong p.parent, other.take 2 ≠ ["w", "baselines"] := by
      obtain rfl | rfl := hnames p hp
      · decide
      · decide
    exact hothers place hmem htake

end HalfChanged

open HalfChanged in
/-- The report cannot be written once the differences are: the run returns what it returns without
either, and the baseline is the same. -/
theorem run_publishTo_in_the_way :
    ((request.publishTo inTheWay).run Png.codec {} ⟨0, 0⟩ ⟨"1"⟩ .compare files).1 =
        (request.run Png.codec {} ⟨0, 0⟩ ⟨"1"⟩ .compare files).1 ∧
      ∀ key, (request.directory {}).load Png.codec key
          ((request.publishTo inTheWay).run Png.codec {} ⟨0, 0⟩ ⟨"1"⟩ .compare files).2 =
        (request.directory {}).load Png.codec key
          (request.run Png.codec {} ⟨0, 0⟩ ⟨"1"⟩ .compare files).2 := by
  obtain ⟨hwilling, hdisk⟩ := run_publishTo request Png.codec {} ⟨0, 0⟩ ⟨"1"⟩ .compare files
  obtain ⟨hanswer, -, hdirectory⟩ := hdisk (.willing Png.codec) inTheWay ⟨none, none⟩
  have hplain : request.publishTo ⟨none, none⟩ = request := rfl
  rw [← hwilling, ← hwilling, hplain] at hanswer hdirectory
  refine ⟨hanswer, (hdirectory (spares_inTheWay _) ?_).2⟩
  intro place _
  exact AttachmentFiles.not_affects_nothing _ place

end RunRequest

end VisualRegression
