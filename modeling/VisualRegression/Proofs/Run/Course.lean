import VisualRegression.Proofs.Capture.Composer
import VisualRegression.Proofs.Check.Course
import VisualRegression.Proofs.Failing
import VisualRegression.Proofs.Ordered.Set
import VisualRegression.Run.Basic

/-!
# Courses of a run

Over files, a check asks parties that answer from the files and never break off, so that its course
can be written down without them.  `candidate` is the image that the check of a run takes, and
`perform_takeImage`, `perform_establish` and `perform_compareWithBaseline` say what each part of the
check comes to, whatever becomes of a save.
-/

namespace VisualRegression

open CheckProgram

section Areas

variable {σ : Type} {parties : Collaborators σ} {s : Shared σ}

/-- Areas are their own places, and nobody is asked for them. -/
theorem perform_foldlM_area (context : SearchContext) (found : OrderedSet Rect)
    (areas : List Rect) :
    perform parties ((areas.map Locator.area).foldlM (Engine.resolveOne context) found) s =
      (some (.ok (areas.foldl OrderedSet.insert found)), s) := by
  induction areas generalizing found with
  | nil => rfl
  | cons area rest ih =>
    rw [List.map_cons, List.foldlM_cons, List.foldl_cons]
    exact ih (found.insert area)

/-- The places of a set of areas are these areas. -/
theorem perform_resolveKind_areas (context : SearchContext) (areas : List Rect) :
    perform parties (Engine.resolveKind context
      (some (OrderedSet.ofList (areas.map Locator.area)))) s =
      (some (.ok (some (OrderedSet.ofList areas))), s) := by
  have hlisted : (OrderedSet.ofList (areas.map Locator.area)).toList =
      ((OrderedSet.ofList (areas.map Locator.area)).toList.map Locator.rect).map Locator.area := by
    rw [List.map_map]
    refine (List.map_congr_left fun l hl => ?_).trans (List.map_id _) |>.symm
    obtain ⟨area, -, rfl⟩ := List.mem_map.1 (OrderedSet.mem_ofList.1 hl)
    rfl
  have hsame : ((OrderedSet.ofList (areas.map Locator.area)).toList.map Locator.rect).foldl
      OrderedSet.insert ∅ = OrderedSet.ofList areas := by
    refine OrderedSet.ext_mem fun area => ?_
    rw [OrderedSet.mem_foldl_insert, OrderedSet.mem_ofList]
    constructor
    · rintro (h | h)
      · exact absurd h (OrderedSet.not_mem_empty area)
      · obtain ⟨l, hl, rfl⟩ := List.mem_map.1 h
        obtain ⟨area, harea, rfl⟩ := List.mem_map.1 (OrderedSet.mem_ofList.1 hl)
        exact harea
    · intro h
      have hl : Locator.area area ∈ OrderedSet.ofList (areas.map Locator.area) :=
        OrderedSet.mem_ofList.2 (List.mem_map_of_mem h)
      exact .inr (List.mem_map.2 ⟨_, hl, rfl⟩)
  unfold Engine.resolveKind
  rw [perform_bind, hlisted, perform_foldlM_area, hsame]
  rfl

end Areas

namespace RunRequest

/-- The directory of the baseline files. -/
def directory (r : RunRequest) (p : Policy) : BaselineDirectory := ⟨(r.policy p).baselineDir⟩

/-- The regions that the check of a run ignores. -/
def ignored (r : RunRequest) : IgnoreMap :=
  ⟨none, if r.areas = [] then none else some (OrderedSet.ofList r.areas)⟩

/-- The check of a run. -/
def check (r : RunRequest) (p : Policy) (id : CheckId) (context : SearchContext) (action : Action)
    (key : BaselineKey) : Check where
  id
  baseline := key
  action
  acceptable := (r.parameters action).acceptable
  required := (r.parameters action).required
  ignores := r.configuration.ignores
  parameters := some (r.configuration.parameters (r.policy p))
  context := some context

/-- The image that the check of a run takes. -/
def candidate [WorkingDirectory] (r : RunRequest) (codec : ImageCodec) (p : Policy)
    (fs : FileSystem) : Except CheckFault Image := do
  let plan ← (Composer.standard.planFor (r.configuration.parameters (r.policy p))).mapError .capture
  let tiles ← FileCapture.capture codec r.images plan fs
  let img ← (plan.assemble tiles).mapError .capture
  return (Mask.apply (r.policy p).maskColor img r.ignored plan.topAdjustment).1

/-- The composer after the check of a run. -/
def composer (r : RunRequest) (p : Policy) : Composer :=
  (Composer.standard.build (r.configuration.parameters (r.policy p))).2

variable {r : RunRequest} {codec : ImageCodec} {p : Policy} {id : CheckId} {now : Instant}
  {context : SearchContext} {action : Action} {key : BaselineKey} {fs : FileSystem}

/-- A step that gives nothing to ignore leaves what is configured. -/
theorem amend_of_ignores {c : Check} {q : StepParameters} (hq : q.ignores = ∅) :
    Step.amend c q = .ok { c with
      ignores := ⟨c.ignores.element.bind CaptureConfiguration.nonEmpty?,
        c.ignores.area.bind CaptureConfiguration.nonEmpty?⟩
      acceptable := q.acceptable <|> c.acceptable
      required := q.required <|> c.required } := by
  unfold Step.amend
  rw [hq]
  rfl

theorem ignores_parameters : (r.parameters action).ignores = ∅ := by
  unfold parameters
  split <;> rfl

/-- The check of a run is the one that its step prepares, unless the name is none. -/
theorem prepare_eq :
    Step.prepare ⟨r.policy p⟩ id context action r.baseline (some (r.parameters action))
        (some r.configuration) =
      match BaselineKey.parse r.baseline with
      | .error fault => .error (.value (.baselineKey fault))
      | .ok key => .ok (r.check p id context action key) := by
  unfold Step.prepare CheckFactory.create
  rcases BaselineKey.parse r.baseline with fault | key
  · rfl
  · simp only [bind, Except.bind, amend_of_ignores ignores_parameters]
    have hnone : ∀ v : Option UInt8, (v <|> none) = v := fun v => by cases v <;> rfl
    simp only [Option.map_some, Option.getD_some, CaptureConfiguration.ignores,
      CaptureConfiguration.bind_nonEmpty?, hnone, check]
    rfl

/-- The percentage of a run is that of its step, under one of its two names. -/
theorem percentages_le (action : Action) {bound : UInt8}
    (h : ∀ v, r.percentage = some v → v ≤ bound) :
    (∀ v, (r.parameters action).acceptable = some v → v ≤ bound) ∧
      ∀ v, (r.parameters action).required = some v → v ≤ bound := by
  unfold parameters
  split
  · exact ⟨fun v hv => (by cases hv), h⟩
  · exact ⟨h, fun v hv => (by cases hv)⟩

theorem validate_parameters (h : ∀ v, r.percentage = some v → v ≤ 100) :
    Step.validate (r.parameters action) = .ok () := by
  obtain ⟨ha, hr⟩ := percentages_le action h
  have one : ∀ q : Option UInt8, (∀ v, q = some v → v ≤ 100) → Step.checkPercentage q = .ok () := by
    intro q hq
    rcases q with _ | v
    · rfl
    · exact if_neg (UInt8.not_lt.2 (hq v rfl))
  unfold Step.validate
  rw [one _ ha, one _ hr]
  rfl

theorem validate_check (h : ∀ v, r.percentage = some v → v ≤ 100) :
    (r.check p id context action key).validate = .ok () :=
  Check.validate_eq_ok_iff.2 (percentages_le action h)

/-! ## The check on files -/

theorem nonEmpty?_areas (areas : List Rect) :
    CaptureConfiguration.nonEmpty? (OrderedSet.ofList (areas.map Locator.area)) =
      if areas = [] then none else some (OrderedSet.ofList (areas.map Locator.area)) := by
  rcases areas with _ | ⟨area, rest⟩
  · rfl
  · rw [if_neg (List.cons_ne_nil _ _)]
    have hmem : Locator.area area ∈ OrderedSet.ofList ((area :: rest).map Locator.area) :=
      OrderedSet.mem_ofList.2 List.mem_cons_self
    refine if_neg fun hempty => ?_
    rw [OrderedSet.isEmpty, List.isEmpty_iff] at hempty
    rw [OrderedSet.mem_def, hempty] at hmem
    cases hmem

/-- What the check of a run ignores is asked of nobody. -/
theorem perform_resolveIgnores {σ : Type} {parties : Collaborators σ} {s : Shared σ} :
    perform parties (Engine.resolveIgnores context r.configuration.ignores) s =
      (some (.ok r.ignored), s) := by
  have harea : r.configuration.ignores.area =
      if r.areas = [] then none else some (OrderedSet.ofList (r.areas.map Locator.area)) :=
    nonEmpty?_areas r.areas
  have helement : r.configuration.ignores.element = none := rfl
  unfold Engine.resolveIgnores ignored
  rw [perform_bind, helement, harea]
  simp only [Engine.resolveKind.eq_1, perform_pure, perform_bind]
  by_cases h : r.areas = []
  · rw [if_pos h, if_pos h]
    rfl
  · rw [if_neg h, if_neg h, perform_resolveKind_areas]

variable [WorkingDirectory]

/-- The parties of a run whose saves come out in some way. -/
def partiesWith (r : RunRequest) (codec : ImageCodec) (p : Policy)
    (save : BaselineKey → Image → FileSystem → Except CheckFault Unit × FileSystem) :
    Collaborators FileSystem :=
  { r.collaborators codec p with save }

variable {save : BaselineKey → Image → FileSystem → Except CheckFault Unit × FileSystem}

/-- What is shown on the way leaves no trace. -/
theorem perform_presentAll (snapshots : List Snapshot) (s : Shared FileSystem) :
    perform (r.partiesWith codec p save) (Engine.presentAll snapshots) s = (some (.ok ()), s) := by
  induction snapshots with
  | nil => rfl
  | cons snapshot rest ih => exact ih

/-- The plan of the check of a run. -/
theorem perform_plan_check :
    perform (r.partiesWith codec p save)
        (CheckProgram.plan (Engine.parameters ⟨r.policy p⟩ (r.check p id context action key)))
        ⟨.standard, fs⟩ =
      (some ((Composer.standard.planFor (r.configuration.parameters (r.policy p))).mapError
          .capture),
        ⟨r.composer p, fs⟩) := rfl

/-- **The image of the check of a run**, or why there is none; the files are left alone. -/
theorem perform_takeImage :
    perform (r.partiesWith codec p save)
        (Engine.takeImage ⟨r.policy p⟩ (r.check p id context action key)) ⟨.standard, fs⟩ =
      (some (r.candidate codec p fs), ⟨r.composer p, fs⟩) := by
  have hcontext : (r.check p id context action key).context = some context := rfl
  rw [Engine.takeImage_of_some hcontext, perform_bind, perform_plan_check]
  unfold candidate
  rcases (Composer.standard.planFor (r.configuration.parameters (r.policy p))).mapError
    CheckFault.capture with fault | plan
  · rfl
  · dsimp only
    rw [perform_bind, perform_capture, ok_bind]
    have hcapture : (r.partiesWith codec p save).capture context plan fs =
        (some (FileCapture.capture codec r.images plan fs), fs) := rfl
    rw [hcapture]
    rcases FileCapture.capture codec r.images plan fs with fault | tiles
    · rfl
    · dsimp only
      rw [perform_bind, perform_mk_pure, ok_bind]
      rcases (plan.assemble tiles).mapError CheckFault.capture with fault | img
      · rfl
      · have hignores : (r.check p id context action key).ignores = r.configuration.ignores := rfl
        rw [hignores]
        dsimp only
        rw [perform_bind, perform_resolveIgnores]
        dsimp only
        rw [perform_bind, perform_presentAll]
        rfl

/-- **Establishing a baseline in files**: the image that was taken is saved. -/
theorem perform_establish (h : ∀ v, r.percentage = some v → v ≤ 100) :
    perform (r.partiesWith codec p save)
        (Engine.establish ⟨r.policy p⟩ now (r.check p id context action key)) ⟨.standard, fs⟩ =
      match r.candidate codec p fs with
      | .error fault => (some (.error fault), ⟨r.composer p, fs⟩)
      | .ok checkpoint =>
        match save key checkpoint fs with
        | (.error fault, fs') => (some (.error fault), ⟨r.composer p, fs'⟩)
        | (.ok (), fs') =>
          (some (.ok (.established (r.check p id context action key) now checkpoint
            (((r.directory p).load codec key fs).toOption.getD none))), ⟨r.composer p, fs'⟩) := by
  unfold Engine.establish
  rw [perform_bind, perform_mk_pure, validate_check h]
  dsimp only
  rw [perform_bind, perform_takeImage]
  rcases r.candidate codec p fs with fault | checkpoint
  · rfl
  · dsimp only
    rw [perform_bind, perform_loadIfReadable]
    dsimp only
    rw [perform_bind, perform_save]
    have hsave : (r.partiesWith codec p save).save (r.check p id context action key).baseline
        checkpoint
        ((r.partiesWith codec p save).load (r.check p id context action key).baseline fs).2 =
      save key checkpoint fs := rfl
    dsimp only
    rw [hsave]
    rcases save key checkpoint fs with ⟨_ | ⟨⟩, fs'⟩ <;> rfl

/-- **A comparison with a baseline in files** leaves the files alone. -/
theorem perform_compareWithBaseline (h : ∀ v, r.percentage = some v → v ≤ 100)
    (ha : action ≠ .establish) :
    perform (r.partiesWith codec p save)
        (Engine.compareWithBaseline ⟨r.policy p⟩ now (r.check p id context action key))
        ⟨.standard, fs⟩ =
      (some (do
        let checkpoint ← r.candidate codec p fs
        match ← (r.directory p).load codec key fs with
        | none => return .baselineMissing (r.check p id context action key) now checkpoint
        | some baseline =>
          Engine.judge ⟨r.policy p⟩ now (r.check p id context action key) checkpoint baseline
            (r.percentage.getD 0)), ⟨r.composer p, fs⟩) := by
  -- the percentage of the run is the one that the action asks for
  have ht : (r.check p id context action key).threshold? = some (r.percentage.getD 0) := by
    cases action with
    | establish => exact absurd rfl ha
    | compare | checkInequality => rfl
  rw [Engine.compareWithBaseline_of_some ht, perform_bind, perform_mk_pure, validate_check h]
  dsimp only
  rw [perform_bind, perform_takeImage]
  rcases r.candidate codec p fs with fault | checkpoint
  · rfl
  · dsimp only
    rw [perform_bind, perform_load, ok_bind]
    have hload : (r.partiesWith codec p save).load
        (r.check p id context action key).baseline fs = ((r.directory p).load codec key fs, fs) :=
      rfl
    dsimp only
    rw [hload]
    rcases (r.directory p).load codec key fs with fault | _ | baseline <;> rfl

end RunRequest

end VisualRegression
