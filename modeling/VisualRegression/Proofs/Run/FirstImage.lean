import VisualRegression.Proofs.Capture.Coherence
import VisualRegression.Proofs.Run.Labels

/-!
# Which images of a run matter

A run that captures what is visible looks at its first image alone: the plan does not scroll, and so
no other file is read, decoded or scaled.  Two runs that agree on the first image are one run
(`runOn_withImages`), whatever the other paths stand for.  A capture of the full page reads all of
them in order, and fails at the first one that is no image (`capture_of_scrolls`).

Main statement: `first_image_alone`.
-/

namespace VisualRegression

section

variable [WorkingDirectory]

/-! ## Captures that scroll -/

namespace FileCapture

variable {codec : ImageCodec} {fs : FileSystem} {path : String} {fault : CheckFault}

/-- **Why a path is no image**: its file cannot be read, or it cannot be decoded. -/
inductive Unreadable (codec : ImageCodec) (fs : FileSystem) (path : String) : CheckFault → Prop
  | unread {cause : FileFault} (hread : fs.readFile (.ofText path) = .error cause) :
      Unreadable codec fs path (.collaborator "file capture" (path ++ ": " ++ cause.message))
  | undecoded {bytes : List UInt8} {cause : CodecFault}
      (hread : fs.readFile (.ofText path) = .ok bytes)
      (hdecode : codec.decode bytes = .error cause) :
      Unreadable codec fs path
        (.collaborator "file capture" (path ++ ": " ++ (ValueFault.codec cause).message))

theorem readTile_eq_error :
    readTile codec fs path = .error fault ↔ Unreadable codec fs path fault := by
  unfold readTile
  constructor
  · intro h
    split at h
    · rename_i cause hread
      cases h
      exact .unread hread
    · rename_i bytes hread
      obtain ⟨cause, hdecode, rfl⟩ := mapError_eq_error.1 h
      exact .undecoded hread hdecode
  · rintro (⟨hread⟩ | ⟨hread, hdecode⟩)
    · rw [hread]
      rfl
    · rw [hread]
      exact mapError_eq_error.2 ⟨_, hdecode, rfl⟩

/-- **A capture that scrolls** reads all images in order, and fails at the first path that is
none. -/
theorem capture_of_scrolls {plan : CapturePlan} (hscrolls : plan.scrolls = true)
    (codec : ImageCodec) (images : List String) (fs : FileSystem) :
    (∀ tiles, capture codec images plan fs = .ok tiles ↔
      List.Forall₂ (fun path tile => codec.Holds fs (.ofText path) tile) images tiles) ∧
    ∀ fault, capture codec images plan fs = .error fault ↔
      ∃ before path after, images = before ++ path :: after ∧
        (∀ earlier ∈ before, ∃ tile, codec.Holds fs (.ofText earlier) tile) ∧
        Unreadable codec fs path fault := by
  have hall : capture codec images plan fs = images.mapM (readTile codec fs) := by
    unfold capture selected
    rw [if_pos hscrolls]
  rw [hall]
  refine ⟨fun tiles => ?_, fun fault => ?_⟩
  · rw [mapM_eq_ok]
    simp only [RunRequest.readTile_eq_ok]
  · rw [mapM_eq_error]
    simp only [RunRequest.readTile_eq_ok, readTile_eq_error]

end FileCapture

/-! ## Runs that do not scroll -/

namespace RunRequest

open CheckProgram

/-- The run with other images. -/
def withImages (r : RunRequest) (images : List String) : RunRequest := { r with images }

/-- **The run captures what is visible.** -/
def IsViewport (r : RunRequest) (p : Policy) : Prop :=
  (r.configuration.parameters (r.policy p)).strategy = viewportName

variable {codec : ImageCodec} {r : RunRequest} {disk : Disk codec} {p : Policy} {now : Instant}
  {id : CheckId} {context : SearchContext} {action : Action} {key : BaselineKey}
  {images : List String} {fs : FileSystem}

/-- The image that is taken is the same. -/
theorem candidate_withImages (codec : ImageCodec) (fs : FileSystem) (hview : r.IsViewport p)
    (hfirst : images.head? = r.images.head?) :
    (r.withImages images).candidate codec p fs = r.candidate codec p fs := by
  have hparameters : (r.withImages images).configuration.parameters
      ((r.withImages images).policy p) = r.configuration.parameters (r.policy p) := rfl
  unfold candidate
  rw [hparameters]
  rcases hplan : Composer.standard.planFor (r.configuration.parameters (r.policy p)) with
    fault | plan
  · rfl
  · have hcapture : FileCapture.capture codec (r.withImages images).images plan fs =
        FileCapture.capture codec r.images plan fs :=
      FileCapture.capture_eq_of_head? hfirst codec
        (Composer.scrolls_of_planFor hplan (congrArg Stitcher.builtIn? hview)) fs
    simp only [Except.mapError, ok_bind, hcapture]
    rfl

/-- The check comes to the same and leaves the same files. -/
theorem perform_execute_withImages (h : ∀ v, r.percentage = some v → v ≤ 100)
    (hview : r.IsViewport p) (hfirst : images.head? = r.images.head?) :
    perform ((r.withImages images).partiesOn p disk)
        (Engine.execute ⟨r.policy p⟩ now (r.check p id context action key)) ⟨.standard, fs⟩ =
      perform (r.partiesOn p disk)
        (Engine.execute ⟨r.policy p⟩ now (r.check p id context action key)) ⟨.standard, fs⟩ := by
  have hcandidate := candidate_withImages codec fs hview hfirst
  by_cases haction : action = .establish
  · have htheirs : perform ((r.withImages images).partiesOn p disk)
        (Engine.establish ⟨r.policy p⟩ now (r.check p id context action key)) ⟨.standard, fs⟩ = _ :=
      perform_establish (r := r.withImages images) h
    rw [Engine.execute_of_establish haction, htheirs, perform_establish h, hcandidate]
    rfl
  · have htheirs : perform ((r.withImages images).partiesOn p disk)
        (Engine.compareWithBaseline ⟨r.policy p⟩ now (r.check p id context action key))
        ⟨.standard, fs⟩ = _ :=
      perform_compareWithBaseline (r := r.withImages images) h haction
    rw [Engine.execute_of_ne_establish haction, htheirs, perform_compareWithBaseline h haction,
      hcandidate]
    rfl

/-- **A run that captures what is visible heeds its first image alone**, on any disk. -/
theorem runOn_withImages (hview : r.IsViewport p) (hfirst : images.head? = r.images.head?) :
    (r.withImages images).runOn disk p now id action fs = r.runOn disk p now id action fs := by
  have hcontext' : (r.withImages images).context = r.context :=
    congrArg (Option.map SearchContext.mk) hfirst
  rcases hvalid : (r.stepRequest action).validate with fault | ⟨⟩
  · have hvalid' : ((r.withImages images).stepRequest action).validate = .error fault := hvalid
    rw [runOn_of_not_valid hvalid, runOn_of_not_valid hvalid']
  have hvalid' : ((r.withImages images).stepRequest action).validate = .ok () := hvalid
  rcases hcontext : r.context with _ | context
  · rw [runOn_of_no_context hvalid hcontext, runOn_of_no_context hvalid' (hcontext'.trans hcontext)]
  · obtain ⟨ha, hr⟩ := StepRequest.validate_eq_ok_iff.1 hvalid _ rfl
    have h : ∀ v, r.percentage = some v → v ≤ 100 := percentage_le ha hr
    have h' : ∀ v, (r.withImages images).percentage = some v → v ≤ 100 := h
    rw [runOn_eq h hcontext, runOn_eq h' (hcontext'.trans hcontext)]
    have hname : (r.withImages images).baseline = r.baseline := rfl
    rw [hname]
    rcases BaselineKey.parse r.baseline with fault | key
    · rfl
    · have hcheck : (r.withImages images).check p id context action key =
          r.check p id context action key := rfl
      have hpolicy : (r.withImages images).policy p = r.policy p := rfl
      dsimp only
      rw [hcheck, hpolicy, perform_execute_withImages h hview hfirst]
      rfl

/-- **A run that captures what is visible heeds its first image alone.**  With any other images
after it the run is the same on any disk, and under another identity and at another time it returns
the same and leaves the same files, but for these labels on the report.  A capture of the full page
in contrast reads all images in order, or fails at the first path that is none. -/
theorem first_image_alone (r : RunRequest) (codec : ImageCodec) (p : Policy) (action : Action) :
    (r.IsViewport p → ∀ images : List String, images.head? = r.images.head? →
      (∀ (disk : Disk codec) (now : Instant) (id : CheckId) (fs : FileSystem),
        (r.withImages images).runOn disk p now id action fs = r.runOn disk p now id action fs) ∧
      ∀ (now now' : Instant) (id id' : CheckId) (fs : FileSystem),
        ((r.withImages images).run codec p now' id' action fs).1 =
            (r.run codec p now id action fs).1 ∧
          AttachmentFiles.SameButLabels ⟨r.diffOut, r.reportOut⟩ now' id'
            (r.run codec p now id action fs).2
            ((r.withImages images).run codec p now' id' action fs).2) ∧
    ∀ (q : CaptureParameters) (plan : CapturePlan), Composer.standard.planFor q = .ok plan →
      q.strategy = fullPageName → ∀ (images : List String) (fs : FileSystem),
        (∀ tiles, FileCapture.capture codec images plan fs = .ok tiles ↔
          List.Forall₂ (fun path tile => codec.Holds fs (.ofText path) tile) images tiles) ∧
        ∀ fault, FileCapture.capture codec images plan fs = .error fault ↔
          ∃ before path after, images = before ++ path :: after ∧
            (∀ earlier ∈ before, ∃ tile, codec.Holds fs (.ofText earlier) tile) ∧
            FileCapture.Unreadable codec fs path fault := by
  refine ⟨fun hview images hfirst => ⟨fun disk now id fs => runOn_withImages hview hfirst, ?_⟩,
    fun q plan hplan hstrategy images fs => FileCapture.capture_of_scrolls
      (Composer.scrolls_of_planFor hplan (congrArg Stitcher.builtIn? hstrategy)) codec images fs⟩
  intro now now' id id' fs
  have hsame : (r.withImages images).run codec p now' id' action fs =
      r.run codec p now' id' action fs := by
    rw [← runOn_willing, ← runOn_willing]
    exact runOn_withImages hview hfirst
  rw [hsame]
  exact run_relabel r codec p now now' id id' action fs

end RunRequest

end

namespace RunRequest

open HalfChanged in
/-- A second image that is missing does not matter to what is visible, and fails the capture of the
full page. -/
theorem first_image_alone_half_changed :
    ((request.withImages ["page.png", "gone.png"]).run Png.codec {} ⟨5, 0⟩ ⟨"2"⟩ .compare
        files).1 = .ok true ∧
      ∃ plan, Composer.standard.planFor { strategy := fullPageName } = .ok plan ∧
        FileCapture.capture Png.codec ["page.png", "gone.png"] plan files =
          .error (.collaborator "file capture"
            ("gone.png" ++ ": " ++ FileFault.message .notFound)) := by
  obtain ⟨hviewport, hfull⟩ := first_image_alone request Png.codec {} .compare
  obtain ⟨-, hlabels⟩ := hviewport rfl ["page.png", "gone.png"] rfl
  have hpercentage : ∀ v, request.percentage = some v → v ≤ 100 := by
    rintro _ ⟨⟩
    decide
  have htrue : (request.run Png.codec {} ⟨0, 0⟩ ⟨"1"⟩ .compare files).1 = .ok true := by
    rw [← runOn_willing]
    refine (runOn_eq_true_iff_compares hpercentage rfl (by decide)
      fun _ _ => Png.isEmpty_of_decode).2 ?_
    exact ⟨_, rfl, page, captures_page, kept, ⟨_, rfl, Png.decode_fileOf rfl⟩, rfl, by decide,
      by decide, .inl ⟨by decide, by decide⟩⟩
  refine ⟨(hlabels ⟨0, 0⟩ ⟨5, 0⟩ ⟨"1"⟩ ⟨"2"⟩ files).1.trans htrue, ?_⟩
  obtain ⟨plan, hplan⟩ : ∃ plan,
      Composer.standard.planFor { strategy := fullPageName } = .ok plan := ⟨_, rfl⟩
  obtain ⟨-, hfails⟩ := hfull _ plan hplan rfl ["page.png", "gone.png"] files
  refine ⟨plan, hplan, (hfails _).2 ⟨["page.png"], "gone.png", [], rfl, ?_, .unread rfl⟩⟩
  exact List.forall_mem_singleton.2 ⟨page, _, rfl, Png.decode_fileOf rfl⟩

end RunRequest

end VisualRegression
