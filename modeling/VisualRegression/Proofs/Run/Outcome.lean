import VisualRegression.Proofs.Check.Verdict
import VisualRegression.Proofs.Png.Codec
import VisualRegression.Proofs.Run.Whole
import VisualRegression.Proofs.Store.Directory

/-!
# When a run passes

A run that compares passes exactly if all that it needs is there and the images are alike, or
different where that is asked for; a run that establishes a baseline passes only if the baseline is
in its file afterwards.  Whatever else goes wrong fails the run, apart from a request that is wrong
in itself, which is handed back.  Main statement: `run_fails_closed`.
-/

namespace VisualRegression

/-- The file at a path is there and holds an image. -/
def ImageCodec.Holds [WorkingDirectory] (codec : ImageCodec) (fs : FileSystem)
    (path : FilePath) (img : Image) : Prop :=
  ∃ bytes, fs.readFile path = .ok bytes ∧ codec.decode bytes = .ok img

namespace RunRequest

open CheckProgram

/-- The file of the baseline of a run. -/
def baselineFile (r : RunRequest) (p : Policy) (key : BaselineKey) : FilePath :=
  (r.directory p).filePath key

/-- The plan by which a run captures. -/
def Plans (r : RunRequest) (p : Policy) (plan : CapturePlan) : Prop :=
  Composer.standard.planFor (r.configuration.parameters (r.policy p)) = .ok plan

/-- A request with an image has a page. -/
theorem exists_context {r : RunRequest} (himages : r.images ≠ []) :
    ∃ context, r.context = some context := by
  obtain ⟨path, rest, hcons⟩ := List.exists_cons_of_ne_nil himages
  refine ⟨⟨path⟩, ?_⟩
  unfold RunRequest.context
  rw [hcons]
  rfl

section

variable [WorkingDirectory]

/-- The tiles of a run are there: each file that the plan selects holds one. -/
def Reads (r : RunRequest) (codec : ImageCodec) (fs : FileSystem) (plan : CapturePlan)
    (tiles : List Image) : Prop :=
  List.Forall₂ (fun path tile => codec.Holds fs (.ofText path) tile)
    (FileCapture.selected r.images plan.scrolls) tiles

/-- **A run captures an image**: its tiles are there and go together, and the areas to ignore are
masked. -/
def Captures (r : RunRequest) (codec : ImageCodec) (p : Policy) (fs : FileSystem) (c : Image) :
    Prop :=
  ∃ plan, r.Plans p plan ∧ ∃ tiles, r.Reads codec fs plan tiles ∧
    ∃ assembled, plan.assemble tiles = .ok assembled ∧
      c = (Mask.apply p.maskColor assembled r.ignored plan.topAdjustment).1

/-- **A run finds two images to compare**: the one that it captures and its baseline, of one size
that is not empty; and the number of positions at which they differ stands in some relation to the
number of all. -/
def Compares (r : RunRequest) (codec : ImageCodec) (p : Policy) (fs : FileSystem)
    (relation : Nat → Nat → Prop) : Prop :=
  ∃ key, BaselineKey.parse r.baseline = .ok key ∧ ∃ c, r.Captures codec p fs c ∧
    ∃ b, codec.Holds fs (r.baselineFile p key) b ∧ b.dimensions = c.dimensions ∧
      c.width ≠ 0 ∧ c.height ≠ 0 ∧
      relation (differenceCount p.tolerance c b) (c.width.toNat * c.height.toNat)

/-- **Something goes wrong in a run that is no fault of the request.** -/
inductive GoesWrong {codec : ImageCodec} (r : RunRequest) (disk : Disk codec) (p : Policy)
    (fs : FileSystem) : Action → Prop
  /-- A tile is not there or is no image. -/
  | tile {action : Action} {key : BaselineKey} {plan : CapturePlan} {path : String}
      (hkey : BaselineKey.parse r.baseline = .ok key) (hplan : r.Plans p plan)
      (hpath : path ∈ FileCapture.selected r.images plan.scrolls)
      (hnone : ∀ tile, ¬ codec.Holds fs (.ofText path) tile) : GoesWrong r disk p fs action
  /-- The tiles do not go together. -/
  | assembly {action : Action} {key : BaselineKey} {plan : CapturePlan} {tiles : List Image}
      {fault : CaptureFault} (hkey : BaselineKey.parse r.baseline = .ok key)
      (hplan : r.Plans p plan) (htiles : r.Reads codec fs plan tiles)
      (hfault : plan.assemble tiles = .error fault) (hno : fault.isConfiguration = false) :
      GoesWrong r disk p fs action
  /-- The baseline to compare with is not there or is no image. -/
  | baseline {action : Action} {key : BaselineKey} {c : Image} (haction : action ≠ .establish)
      (hkey : BaselineKey.parse r.baseline = .ok key) (hc : r.Captures codec p fs c)
      (hnone : ∀ b, ¬ codec.Holds fs (r.baselineFile p key) b) : GoesWrong r disk p fs action
  /-- The baseline to compare with is of another size. -/
  | size {action : Action} {key : BaselineKey} {c b : Image} (haction : action ≠ .establish)
      (hkey : BaselineKey.parse r.baseline = .ok key) (hc : r.Captures codec p fs c)
      (hb : codec.Holds fs (r.baselineFile p key) b) (hsize : b.dimensions ≠ c.dimensions) :
      GoesWrong r disk p fs action
  /-- The baseline cannot be saved, whatever operation the disk refuses. -/
  | save {key : BaselineKey} {c : Image} {fault : CheckFault}
      (hkey : BaselineKey.parse r.baseline = .ok key) (hc : r.Captures codec p fs c)
      (hsave : (disk.save (r.directory p) key c fs).1 = .error fault) :
      GoesWrong r disk p fs .establish

variable {r : RunRequest} {codec : ImageCodec} {disk : Disk codec} {p : Policy} {id : CheckId}
  {now : Instant} {context : SearchContext} {action : Action} {key : BaselineKey} {fs : FileSystem}

/-! ## The image of a run -/

theorem readTile_eq_ok {path : String} {tile : Image} :
    FileCapture.readTile codec fs path = .ok tile ↔ codec.Holds fs (.ofText path) tile := by
  unfold FileCapture.readTile ImageCodec.Holds
  rcases fs.readFile (.ofText path) with fault | bytes
  · exact ⟨fun h => (by cases h), fun ⟨_, h, _⟩ => (by cases h)⟩
  · constructor
    · intro h
      exact ⟨bytes, rfl, mapError_eq_ok.1 h⟩
    · rintro ⟨_, h, hd⟩
      cases h
      exact mapError_eq_ok.2 hd

/-- A tile that cannot be read is no fault of the request. -/
theorem isConfiguration_of_readTile {path : String} {fault : CheckFault}
    (h : FileCapture.readTile codec fs path = .error fault) : fault.isConfiguration = false := by
  unfold FileCapture.readTile at h
  split at h
  · cases h
    rfl
  · obtain ⟨cause, -, rfl⟩ := mapError_eq_error.1 h
    rfl

/-- A capture from files ends well exactly if the tiles are there. -/
theorem capture_eq_ok {plan : CapturePlan} {tiles : List Image} :
    FileCapture.capture codec r.images plan fs = .ok tiles ↔ r.Reads codec fs plan tiles := by
  unfold FileCapture.capture Reads
  rw [mapM_eq_ok]
  simp only [readTile_eq_ok]

/-- A capture from files that fails is no fault of the request. -/
theorem isConfiguration_of_capture {images : List String} {plan : CapturePlan} {fault : CheckFault}
    (h : FileCapture.capture codec images plan fs = .error fault) :
    fault.isConfiguration = false := by
  obtain ⟨path, -, hpath⟩ := exists_of_mapM_eq_error h
  exact isConfiguration_of_readTile hpath

/-- **The check of a run takes an image** exactly if the run captures it. -/
theorem candidate_eq_ok {c : Image} :
    r.candidate codec p fs = .ok c ↔ r.Captures codec p fs c := by
  constructor
  · intro h
    obtain ⟨plan, hplan, h⟩ := bind_eq_ok.1 h
    obtain ⟨tiles, htiles, h⟩ := bind_eq_ok.1 h
    obtain ⟨assembled, hassembled, h⟩ := bind_eq_ok.1 h
    cases h
    exact ⟨plan, mapError_eq_ok.1 hplan, tiles, capture_eq_ok.1 htiles, assembled,
      mapError_eq_ok.1 hassembled, rfl⟩
  · rintro ⟨plan, hplan, tiles, htiles, assembled, hassembled, rfl⟩
    exact bind_eq_ok.2 ⟨plan, mapError_eq_ok.2 hplan,
      bind_eq_ok.2 ⟨tiles, capture_eq_ok.2 htiles,
        bind_eq_ok.2 ⟨assembled, mapError_eq_ok.2 hassembled, rfl⟩⟩⟩

/-- A tile that is missing leaves a run without an image, which is no fault of the request. -/
theorem candidate_of_missing_tile {plan : CapturePlan} {path : String} (hplan : r.Plans p plan)
    (hpath : path ∈ FileCapture.selected r.images plan.scrolls)
    (hnone : ∀ tile, ¬ codec.Holds fs (.ofText path) tile) :
    ∃ fault, r.candidate codec p fs = .error fault ∧ fault.isConfiguration = false := by
  unfold candidate
  rw [mapError_eq_ok.2 hplan, ok_bind]
  rcases hc : FileCapture.capture codec r.images plan fs with fault | tiles
  · exact ⟨fault, rfl, isConfiguration_of_capture hc⟩
  · obtain ⟨tile, htile⟩ := exists_of_mapM_eq_ok hc hpath
    exact absurd (readTile_eq_ok.1 htile) (hnone tile)

/-- Tiles that do not go together leave a run without an image. -/
theorem candidate_of_assembly {plan : CapturePlan} {tiles : List Image} {fault : CaptureFault}
    (hplan : r.Plans p plan) (htiles : r.Reads codec fs plan tiles)
    (hfault : plan.assemble tiles = .error fault) :
    r.candidate codec p fs = .error (.capture fault) := by
  unfold candidate
  rw [mapError_eq_ok.2 hplan, ok_bind, capture_eq_ok.2 htiles, ok_bind, hfault]
  rfl

/-! ## The outcome of a run -/

/-- **A run that compares** passes if it has two images whose verdict is good, fails if it has none
or one, or two whose verdict is bad, and hands back what is wrong in the request. -/
theorem runOn_of_ne_establish (h : ∀ v, r.percentage = some v → v ≤ 100)
    (hc : r.context = some context) (ha : action ≠ .establish) :
    (r.runOn disk p now id action fs).1 =
      match BaselineKey.parse r.baseline with
      | .error fault => .error (.value (.baselineKey fault))
      | .ok key =>
        match r.candidate codec p fs with
        | .error fault => if fault.isConfiguration then .error fault else .ok false
        | .ok c =>
          match (r.directory p).load codec key fs with
          | .error fault => if fault.isConfiguration then .error fault else .ok false
          | .ok none => .ok false
          | .ok (some b) => .ok (decide (b.dimensions = c.dimensions ∧
              Xor (100 * differenceCount p.tolerance c b ≤
                  (r.percentage.getD 0).toNat * (c.width.toNat * c.height.toNat))
                (action = .checkInequality))) := by
  rw [runOn_eq h hc]
  rcases BaselineKey.parse r.baseline with fault | key
  · rfl
  · dsimp only
    rw [Engine.execute_of_ne_establish ha, perform_compareWithBaseline h ha]
    rcases r.candidate codec p fs with fault | c
    · rfl
    · rw [ok_bind]
      rcases (r.directory p).load codec key fs with fault | _ | b
      · rfl
      · have hne : (r.check p id context action key).action ≠ .establish := ha
        -- a result without a baseline never passes, whatever the action hopes for
        have hmissing : Step.passes (.baselineMissing (r.check p id context action key) now c) =
            false := by
          refine Bool.eq_false_iff.2 fun hpass => ?_
          rcases Step.passes_iff.1 hpass with he | hv
          · exact hne he
          · rw [CheckResult.verdict_baselineMissing, if_neg hne] at hv
            cases hv
        exact congrArg Except.ok hmissing
      · obtain ⟨result, hj, hpass⟩ := exists_judge p id now context key h ha c b
        rw [ok_bind]
        dsimp only
        rw [hj]
        exact congrArg Except.ok (Bool.eq_iff_iff.2 (hpass.trans decide_eq_true_iff.symm))

/-- **A run that establishes a baseline** passes if it has an image and this could be saved. -/
theorem runOn_of_establish (h : ∀ v, r.percentage = some v → v ≤ 100)
    (hc : r.context = some context) :
    r.runOn disk p now id .establish fs =
      match BaselineKey.parse r.baseline with
      | .error fault => (.error (.value (.baselineKey fault)), fs)
      | .ok key =>
        match r.candidate codec p fs with
        | .error fault => (if fault.isConfiguration then .error fault else .ok false, fs)
        | .ok c =>
          match disk.save (r.directory p) key c fs with
          | (.error fault, fs') => (if fault.isConfiguration then .error fault else .ok false, fs')
          | (.ok (), fs') =>
            (.ok true, disk.publish ⟨r.diffOut, r.reportOut⟩
              (.established (r.check p id context .establish key) now c
                (((r.directory p).load codec key fs).toOption.getD none)) fs') := by
  rw [runOn_eq h hc]
  rcases BaselineKey.parse r.baseline with fault | key
  · rfl
  · dsimp only
    rw [Engine.execute_of_establish rfl, perform_establish h]
    rcases r.candidate codec p fs with fault | c
    · rfl
    · dsimp only
      rcases disk.save (r.directory p) key c fs with ⟨fault | ⟨⟩, fs'⟩
      · rfl
      · rfl

/-- A directory of files fails for reasons of its own. -/
theorem isConfiguration_of_load {d : BaselineDirectory} {fault : CheckFault}
    (h : d.load codec key fs = .error fault) : fault.isConfiguration = false := by
  rcases hr : fs.readFile (d.filePath key) with cause | bytes
  · rw [BaselineDirectory.load_of_fault hr] at h
    split at h
    · cases h
    · cases h
      rfl
  · rw [BaselineDirectory.load_of_readFile hr] at h
    split at h
    · cases h
      rfl
    · cases h

theorem load_eq_some_iff {b : Image} :
    (r.directory p).load codec key fs = .ok (some b) ↔ codec.Holds fs (r.baselineFile p key) b :=
  BaselineDirectory.load_eq_some

/-- **When a run that compares passes**: exactly if it has two images of one size that are alike, or
not if that is asked for. -/
theorem runOn_eq_true_iff (h : ∀ v, r.percentage = some v → v ≤ 100) (hc : r.context = some context)
    (ha : action ≠ .establish) :
    (r.runOn disk p now id action fs).1 = .ok true ↔
      ∃ key, BaselineKey.parse r.baseline = .ok key ∧ ∃ c, r.Captures codec p fs c ∧
        ∃ b, codec.Holds fs (r.baselineFile p key) b ∧ b.dimensions = c.dimensions ∧
          Xor (100 * differenceCount p.tolerance c b ≤
              (r.percentage.getD 0).toNat * (c.width.toNat * c.height.toNat))
            (action = .checkInequality) := by
  rw [runOn_of_ne_establish h hc ha]
  constructor
  · intro hrun
    rcases hkey : BaselineKey.parse r.baseline with fault | key
    · rw [hkey] at hrun
      cases hrun
    · rw [hkey] at hrun
      dsimp only at hrun
      rcases hcand : r.candidate codec p fs with fault | c
      · rw [hcand] at hrun
        dsimp only at hrun
        split at hrun <;> cases hrun
      · rw [hcand] at hrun
        dsimp only at hrun
        rcases hload : (r.directory p).load codec key fs with fault | _ | b
        · rw [hload] at hrun
          dsimp only at hrun
          split at hrun <;> cases hrun
        · rw [hload] at hrun
          cases hrun
        · rw [hload] at hrun
          obtain ⟨hd, hx⟩ := of_decide_eq_true (Except.ok.inj hrun)
          exact ⟨key, rfl, c, candidate_eq_ok.1 hcand, b, load_eq_some_iff.1 hload, hd, hx⟩
  · rintro ⟨key, hkey, c, hcand, b, hload, hd, hx⟩
    rw [hkey]
    dsimp only
    rw [candidate_eq_ok.2 hcand]
    dsimp only
    rw [load_eq_some_iff.2 hload]
    exact congrArg Except.ok (decide_eq_true ⟨hd, hx⟩)

/-- Whatever fault a run hands back is one of the request. -/
theorem isConfiguration_of_runOn (h : ∀ v, r.percentage = some v → v ≤ 100)
    (hc : r.context = some context) {fault : CheckFault}
    (hrun : (r.runOn disk p now id action fs).1 = .error fault) : fault.isConfiguration = true := by
  -- what a run does with a fault that its check came to
  have hand {cause : CheckFault}
      (hcause : (if cause.isConfiguration then Except.error cause else .ok false) =
        (.error fault : Except CheckFault Bool)) : fault.isConfiguration = true := by
    by_cases hconf : cause.isConfiguration = true
    · rw [if_pos hconf] at hcause
      cases hcause
      exact hconf
    · rw [if_neg hconf] at hcause
      cases hcause
  by_cases ha : action = .establish
  · rw [ha, runOn_of_establish h hc] at hrun
    split at hrun
    · cases hrun
      rfl
    · split at hrun
      · exact hand hrun
      · split at hrun
        · exact hand hrun
        · cases hrun
  · rw [runOn_of_ne_establish h hc ha] at hrun
    split at hrun
    · cases hrun
      rfl
    · split at hrun
      · exact hand hrun
      · split at hrun
        · exact hand hrun
        · cases hrun
        · cases hrun

/-- A run whose image cannot be had fails, unless the request is to blame. -/
theorem runOn_of_candidate_error (h : ∀ v, r.percentage = some v → v ≤ 100)
    (hc : r.context = some context) (hkey : BaselineKey.parse r.baseline = .ok key)
    {fault : CheckFault} (hfault : r.candidate codec p fs = .error fault)
    (hno : fault.isConfiguration = false) : (r.runOn disk p now id action fs).1 = .ok false := by
  have hif : (if fault.isConfiguration then Except.error fault else .ok false) =
      (.ok false : Except CheckFault Bool) := if_neg (Bool.eq_false_iff.1 hno)
  by_cases ha : action = .establish
  · rw [ha, runOn_of_establish h hc, hkey]
    dsimp only
    rw [hfault]
    exact hif
  · rw [runOn_of_ne_establish h hc ha, hkey]
    dsimp only
    rw [hfault]
    exact hif

/-- A run that has no baseline to compare with fails. -/
theorem runOn_of_no_baseline (h : ∀ v, r.percentage = some v → v ≤ 100)
    (hc : r.context = some context) (ha : action ≠ .establish)
    (hkey : BaselineKey.parse r.baseline = .ok key) {c : Image} (hcand : r.Captures codec p fs c)
    (hnone : ∀ b, ¬ codec.Holds fs (r.baselineFile p key) b) :
    (r.runOn disk p now id action fs).1 = .ok false := by
  rw [runOn_of_ne_establish h hc ha, hkey]
  dsimp only
  rw [candidate_eq_ok.2 hcand]
  dsimp only
  rcases hload : (r.directory p).load codec key fs with fault | _ | b
  · exact if_neg (Bool.eq_false_iff.1 (isConfiguration_of_load hload))
  · rfl
  · exact absurd (load_eq_some_iff.1 hload) (hnone b)

/-- **Whatever goes wrong in a run fails it.** -/
theorem runOn_of_goesWrong (h : ∀ v, r.percentage = some v → v ≤ 100)
    (hc : r.context = some context) (hwrong : r.GoesWrong disk p fs action) :
    (r.runOn disk p now id action fs).1 = .ok false := by
  cases hwrong with
  | tile hkey hplan hpath hnone =>
    obtain ⟨fault, hfault, hno⟩ := candidate_of_missing_tile hplan hpath hnone
    exact runOn_of_candidate_error h hc hkey hfault hno
  | assembly hkey hplan htiles hfault hno =>
    exact runOn_of_candidate_error h hc hkey (candidate_of_assembly hplan htiles hfault) hno
  | baseline ha hkey hcand hnone => exact runOn_of_no_baseline h hc ha hkey hcand hnone
  | size ha hkey hcand hb hsize =>
    rw [runOn_of_ne_establish h hc ha, hkey]
    dsimp only
    rw [candidate_eq_ok.2 hcand]
    dsimp only
    rw [load_eq_some_iff.2 hb]
    exact congrArg Except.ok (decide_eq_false fun hd => hsize hd.1)
  | @save key c fault hkey hcand hsave =>
    rw [runOn_of_establish h hc, hkey]
    dsimp only
    rw [candidate_eq_ok.2 hcand]
    dsimp only
    have hfault := disk.isConfiguration_of_save hsave
    rw [show disk.save (r.directory p) key c fs = (.error fault, _) from Prod.ext hsave rfl]
    exact if_neg (Bool.eq_false_iff.1 hfault)

/-- An image that is read from a file has pixels, if all that the form of the files gives do. -/
theorem sides_of_holds (hsolid : ∀ bytes img, codec.decode bytes = .ok img → img.isEmpty = false)
    {path : FilePath} {img : Image} (himg : codec.Holds fs path img) :
    img.width ≠ 0 ∧ img.height ≠ 0 := by
  obtain ⟨bytes, -, hd⟩ := himg
  exact Image.sides_ne_zero (hsolid bytes img hd)

/-- **When a run that compares passes**, in terms of the number of positions that differ. -/
theorem runOn_eq_true_iff_compares (h : ∀ v, r.percentage = some v → v ≤ 100)
    (hc : r.context = some context) (ha : action ≠ .establish)
    (hsolid : ∀ bytes img, codec.decode bytes = .ok img → img.isEmpty = false) :
    (r.runOn disk p now id action fs).1 = .ok true ↔
      r.Compares codec p fs fun differing total =>
        Xor (100 * differing ≤ (r.percentage.getD 0).toNat * total)
          (action = .checkInequality) := by
  rw [runOn_eq_true_iff h hc ha]
  constructor
  · rintro ⟨key, hkey, c, hcand, b, hb, hd, hx⟩
    obtain ⟨hw, hh⟩ := sides_of_holds hsolid hb
    refine ⟨key, hkey, c, hcand, b, hb, hd, ?_, ?_, hx⟩
    · exact fun hz => hw ((congrArg Prod.fst hd).trans hz)
    · exact fun hz => hh ((congrArg Prod.snd hd).trans hz)
  · rintro ⟨key, hkey, c, hcand, b, hb, hd, -, -, hx⟩
    exact ⟨key, hkey, c, hcand, b, hb, hd, hx⟩

/-- Two images that stand in a relation stand in one that follows from it. -/
theorem Compares.imp {before after : Nat → Nat → Prop}
    (himp : ∀ differing total, before differing total → after differing total)
    (hcmp : r.Compares codec p fs before) : r.Compares codec p fs after := by
  obtain ⟨key, hkey, c, hcand, b, hb, hd, hw, hh, hrel⟩ := hcmp
  exact ⟨key, hkey, c, hcand, b, hb, hd, hw, hh, himp _ _ hrel⟩

/-- **A run that establishes a baseline and passes** leaves what it captured in the file of the
baseline, if it does not put its report there. -/
theorem holds_of_runOn_establish (hcodec : codec.Lossless)
    (h : ∀ v, r.percentage = some v → v ≤ 100) (hc : r.context = some context)
    (hrun : (r.runOn disk p now id .establish fs).1 = .ok true) :
    ∃ key, BaselineKey.parse r.baseline = .ok key ∧ ∃ c, r.Captures codec p fs c ∧
      ((∀ path, r.reportOut = some path →
          (r.baselineFile p key).place ≠ (FilePath.ofText path).place) →
        codec.Holds (r.runOn disk p now id .establish fs).2 (r.baselineFile p key) c) := by
  rw [runOn_of_establish h hc] at hrun ⊢
  rcases hkey : BaselineKey.parse r.baseline with fault | key
  · rw [hkey] at hrun
    cases hrun
  · rw [hkey] at hrun
    dsimp only at hrun ⊢
    rcases hcand : r.candidate codec p fs with fault | c
    · rw [hcand] at hrun
      dsimp only at hrun
      split at hrun <;> cases hrun
    · rw [hcand] at hrun
      dsimp only at hrun ⊢
      have hkept : (disk.save (r.directory p) key c fs).1 = .ok () →
        (r.directory p).Kept codec key c fs (disk.save (r.directory p) key c fs).2 :=
        disk.kept_of_save
      rcases hsave : disk.save (r.directory p) key c fs with ⟨fault | ⟨⟩, fs'⟩
      · rw [hsave] at hrun
        dsimp only at hrun
        split at hrun <;> cases hrun
      · rw [hsave] at hkept
        obtain ⟨bytes, hencode, hreplaced⟩ := hkept rfl
        refine ⟨key, rfl, c, candidate_eq_ok.1 hcand, fun hreport => ?_⟩
        refine ⟨bytes, ?_, BaselineDirectory.decode_of_encode hcodec hencode⟩
        refine (disk.changesOnly_publish _ _ fs').readFile ?_ hreplaced.file
        -- a run that establishes has no differences to publish
        rintro ⟨_, hhas, hplace⟩
        cases hhas with
        | diff hpath hdiff => exact hdiff rfl
        | report hpath => exact hreport _ hpath hplace

/-- **A broken run never passes**, on any disk.  Over all files, a run that compares passes exactly
if its tiles and its baseline are there, are of one size, and differ at no more positions than its
percentage allows, or at more if that is asked for; a run that establishes a baseline passes only if
the baseline is in its file afterwards.  Whatever goes wrong fails the run, be it that the disk
refuses what a save asks of it, and only a wrong request is handed back. -/
theorem run_fails_closed (r : RunRequest) (p : Policy) (now : Instant) (id : CheckId)
    (fs : FileSystem) (hcodec : codec.Lossless)
    (hsolid : ∀ bytes img, codec.decode bytes = .ok img → img.isEmpty = false)
    (himages : r.images ≠ []) (hpercentage : ∀ v, r.percentage = some v → v ≤ 100) :
    (∀ action, r.run codec p now id action fs = r.runOn (.willing codec) p now id action fs) ∧
    ∀ disk : Disk codec,
      ((r.runOn disk p now id .compare fs).1 = .ok true ↔
        r.Compares codec p fs fun differing total =>
          100 * differing ≤ (r.percentage.getD 0).toNat * total) ∧
      ((r.runOn disk p now id .checkInequality fs).1 = .ok true ↔
        r.Compares codec p fs fun differing total =>
          (r.percentage.getD 0).toNat * total < 100 * differing) ∧
      ((r.runOn disk p now id .establish fs).1 = .ok true →
        ∃ key, BaselineKey.parse r.baseline = .ok key ∧ ∃ c, r.Captures codec p fs c ∧
          ((∀ path, r.reportOut = some path →
              (r.baselineFile p key).place ≠ (FilePath.ofText path).place) →
            codec.Holds (r.runOn disk p now id .establish fs).2 (r.baselineFile p key) c)) ∧
      ∀ action,
        (r.GoesWrong disk p fs action → (r.runOn disk p now id action fs).1 = .ok false) ∧
        ∀ fault, (r.runOn disk p now id action fs).1 = .error fault →
          fault.isConfiguration = true := by
  obtain ⟨context, hc⟩ := exists_context himages
  refine ⟨fun _ => rfl, fun disk => ⟨?_, ?_, holds_of_runOn_establish hcodec hpercentage hc,
    fun _ => ⟨runOn_of_goesWrong hpercentage hc, fun _ => isConfiguration_of_runOn hpercentage hc⟩⟩⟩
  · rw [runOn_eq_true_iff_compares hpercentage hc (by decide) hsolid]
    constructor
    · refine Compares.imp fun differing total hx => ?_
      rcases hx with ⟨hle, -⟩ | ⟨hact, -⟩
      · exact hle
      · cases hact
    · exact Compares.imp fun differing total hle => .inl ⟨hle, by decide⟩
  · rw [runOn_eq_true_iff_compares hpercentage hc (by decide) hsolid]
    constructor
    · refine Compares.imp fun differing total hx => ?_
      rcases hx with ⟨-, hact⟩ | ⟨-, hnot⟩
      · exact absurd rfl hact
      · exact Nat.lt_of_not_le hnot
    · exact Compares.imp fun differing total hlt => .inr ⟨rfl, Nat.not_le.2 hlt⟩

end

namespace HalfChanged

/-- The run begins in a directory right below the top. -/
scoped instance workingDirectory : WorkingDirectory := ⟨["w"]⟩

/-- The page as it is: two black pixels. -/
def page : Image := ⟨2, 1, #[⟨0, 0, 0, 255⟩, ⟨0, 0, 0, 255⟩], rfl⟩

/-- The page as it was: the second pixel is white. -/
def kept : Image := ⟨2, 1, #[⟨0, 0, 0, 255⟩, ⟨255, 255, 255, 255⟩], rfl⟩

/-- A working directory with both. -/
def files : FileSystem :=
  ((FileSystem.empty.put ["w", "baselines"] .directory).put ["w", "baselines", "home.png"]
    (.file (Png.fileOf kept))).put ["w", "page.png"] (.file (Png.fileOf page))

/-- Half of the page may differ. -/
def request : RunRequest := { baseline := "home", images := ["page.png"], percentage := some 50 }

/-- The request captures the page from its one file. -/
theorem captures_page : request.Captures Png.codec {} files page := by
  obtain ⟨plan, hplan, hselected, hassemble, hmask⟩ :
      ∃ plan, request.Plans {} plan ∧
        FileCapture.selected request.images plan.scrolls = ["page.png"] ∧
        plan.assemble [page] = .ok page ∧
        page = (Mask.apply (Policy.maskColor {}) page request.ignored plan.topAdjustment).1 :=
    ⟨_, rfl, rfl, rfl, rfl⟩
  refine ⟨plan, hplan, [page], ?_, page, hassemble, hmask⟩
  unfold Reads
  rw [hselected]
  exact .cons ⟨_, rfl, Png.decode_fileOf rfl⟩ .nil

end HalfChanged

open HalfChanged in
/-- One of two pixels differs, and half of them may.  A disk that refuses to keep the page as the
new baseline fails the run. -/
theorem run_fails_closed_half_changed :
    (request.run Png.codec {} ⟨0, 0⟩ ⟨"1"⟩ .compare files).1 = .ok true ∧
      (request.runOn (.refusing Png.codec .notDirectory) {} ⟨0, 0⟩ ⟨"1"⟩ .establish files).1 =
        .ok false := by
  have hpercentage : ∀ v, request.percentage = some v → v ≤ 100 := by
    rintro _ ⟨⟩
    decide
  obtain ⟨hwilling, hdisk⟩ := run_fails_closed request {} ⟨0, 0⟩ ⟨"1"⟩ files Png.codec_lossless
    (fun _ _ => Png.isEmpty_of_decode) (List.cons_ne_nil _ _) hpercentage
  constructor
  · rw [hwilling]
    exact (hdisk (.willing Png.codec)).1.2 ⟨_, rfl, page, captures_page, kept,
      ⟨_, rfl, Png.decode_fileOf rfl⟩, rfl, by decide, by decide, by decide⟩
  · have hkey : BaselineKey.parse request.baseline = .ok ⟨"home"⟩ := rfl
    have hsave : ((request.directory {}).saving Png.codec ⟨"home"⟩ page).runRefused .notDirectory =
        .error (.store (.unwritable "./baselines/home.png" .notDirectory)) := by
      obtain ⟨bytes, hencode, -⟩ := Png.codec_lossless.decode_encode page rfl
      unfold BaselineDirectory.saving
      rw [hencode]
      rfl
    exact ((hdisk (.refusing Png.codec .notDirectory)).2.2.2 .establish).1
      (.save hkey captures_page hsave)

end RunRequest

end VisualRegression
