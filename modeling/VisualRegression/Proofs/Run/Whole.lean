import VisualRegression.Proofs.Check.Ending
import VisualRegression.Proofs.Check.Verdict
import VisualRegression.Proofs.Run.Disk

/-!
# A run as a whole

What a run returns and which files it leaves, put together from the course of its check: `runOn_eq`
on any disk, and `run_eq` on one that refuses nothing.  A result passes if nothing that is asserted
of it fails, which is said by its verdict (`passes_iff`).
-/

namespace VisualRegression

open CheckProgram

/-- Nothing that a step asserts of a result fails. -/
def Step.passes (result : CheckResult) : Bool :=
  (Step.assertions result).all fun event => !SoftAssert.isFailure event

/-- **A result passes** if its check establishes a baseline, and else exactly if its verdict says
so. -/
theorem Step.passes_iff {result : CheckResult} :
    Step.passes result = true ↔ result.action = .establish ∨ result.verdict = some true := by
  unfold passes assertions CheckResult.verdict
  by_cases ha : result.action = .establish
  · rw [if_pos ha]
    exact ⟨fun _ => .inl ha, fun _ => rfl⟩
  · rw [if_neg ha, if_neg ha]
    by_cases hf : result.baselineFound = true
    · rcases hr : result.failure with _ | reason
      · rcases result.passed.bind result.action.verdict with _ | _ | _ <;>
          simp [SoftAssert.isFailure, hf, ha]
      · simp [SoftAssert.isFailure, hf, ha]
    · simp [SoftAssert.isFailure, hf, ha]

namespace RunRequest

variable {r : RunRequest} {p : Policy} {id : CheckId} {now : Instant} {context : SearchContext}
  {action : Action} {key : BaselineKey}

/-- The percentages of a run are those of a step, so that the step goes on to prepare its check. -/
theorem step_eq (h : ∀ v, r.percentage = some v → v ≤ 100) (hc : r.context = some context) :
    r.step p now id action =
      match Step.prepare ⟨r.policy p⟩ id context action r.baseline (some (r.parameters action))
        (some r.configuration) with
      | .error fault => .done ⟨.error fault, []⟩
      | .ok check => do
        return Step.conclude (← (Engine.execute ⟨r.policy p⟩ now check).run) := by
  unfold step Step.program
  rewrite [Option.map_some, Option.getD_some, validate_parameters h, hc]
  rfl

/-- **The step of a run** asks for its check, unless the name of the baseline is none. -/
theorem run_step (h : ∀ v, r.percentage = some v → v ≤ 100) (hc : r.context = some context)
    {σ : Type} (parties : Collaborators σ) (s : Shared σ) :
    (r.step p now id action).run parties s =
      match BaselineKey.parse r.baseline with
      | .error fault => (some ⟨.error (.value (.baselineKey fault)), []⟩, s)
      | .ok key =>
        match perform parties
          (Engine.execute ⟨r.policy p⟩ now (r.check p id context action key)) s with
        | (ended, s') => (ended.map Step.conclude, s') := by
  rw [step_eq h hc, prepare_eq]
  rcases BaselineKey.parse r.baseline with fault | key
  · rfl
  · exact Step.run_conclude _ _ _

/-- The check of a run that compares comes to a result as soon as there are two images. -/
theorem exists_judge (p : Policy) (id : CheckId) (now : Instant) (context : SearchContext)
    (key : BaselineKey) (h : ∀ v, r.percentage = some v → v ≤ 100) (ha : action ≠ .establish)
    (c b : Image) :
    ∃ result, Engine.judge ⟨r.policy p⟩ now (r.check p id context action key) c b
        (r.percentage.getD 0) = .ok result ∧
      (Step.passes result = true ↔ b.dimensions = c.dimensions ∧
        Xor (100 * differenceCount p.tolerance c b ≤
            (r.percentage.getD 0).toNat * (c.width.toNat * c.height.toNat))
          (action = .checkInequality)) := by
  have hp : (r.percentage.getD 0).toNat ≤ 100 := by
    rcases hr : r.percentage with _ | v
    · exact Nat.zero_le _
    · exact UInt8.le_iff_toNat_le.1 (h v hr)
  obtain ⟨result, hj⟩ : ∃ result, Engine.judge ⟨r.policy p⟩ now (r.check p id context action key) c
      b (r.percentage.getD 0) = .ok result := by
    unfold Engine.judge
    by_cases hd : c.dimensions = b.dimensions
    · obtain ⟨found, hfound⟩ := Comparer.exists_compare_ok (Engine.comparer ⟨r.policy p⟩) hd hp
      rw [hfound]
      exact ⟨_, rfl⟩
    · rw [Comparer.compare_of_dimensions_ne _ _ hd]
      exact ⟨_, rfl⟩
  obtain ⟨-, v, hv, hiff⟩ := Engine.judge_ok ha hj
  have haction : ¬ result.action = .establish :=
    fun he => ha ((Engine.action_of_judge hj).symm.trans he)
  refine ⟨result, hj, ?_⟩
  rw [Step.passes_iff, or_iff_right haction, hv, Option.some.injEq]
  exact hiff

variable [WorkingDirectory] {codec : ImageCodec} {disk : Disk codec} {fs : FileSystem}

/-- The result that a step shows is published, and what it asserts is noted. -/
theorem settleOn_published (r : RunRequest) (disk : Disk codec) (result : CheckResult)
    (fs : FileSystem) :
    (r.settleOn disk (.published result :: Step.assertions result) fs).1.allPassed =
        Step.passes result ∧
      (r.settleOn disk (.published result :: Step.assertions result) fs).2 =
        disk.publish ⟨r.diffOut, r.reportOut⟩ result fs := by
  unfold Step.passes Step.assertions
  split
  · exact ⟨rfl, rfl⟩
  · split
    · exact ⟨rfl, rfl⟩
    · split
      · exact ⟨rfl, rfl⟩
      · cases result.verdict.getD false <;> exact ⟨rfl, rfl⟩

/-- **A run on a disk, whole.** -/
theorem runOn_eq (h : ∀ v, r.percentage = some v → v ≤ 100) (hc : r.context = some context) :
    r.runOn disk p now id action fs =
      match BaselineKey.parse r.baseline with
      | .error fault => (.error (.value (.baselineKey fault)), fs)
      | .ok key =>
        match perform (r.partiesOn p disk)
          (Engine.execute ⟨r.policy p⟩ now (r.check p id context action key)) ⟨.standard, fs⟩ with
        | (none, s) => (.error .brokenOff, s.world)
        | (some (.error fault), s) =>
          (if fault.isConfiguration then .error fault else .ok false, s.world)
        | (some (.ok result), s) =>
          (.ok (Step.passes result), disk.publish ⟨r.diffOut, r.reportOut⟩ result s.world) := by
  unfold runOn
  rw [run_step h hc]
  rcases BaselineKey.parse r.baseline with fault | key
  · rfl
  · dsimp only
    rcases perform (r.partiesOn p disk)
      (Engine.execute ⟨r.policy p⟩ now (r.check p id context action key)) ⟨.standard, fs⟩ with
      ⟨_ | fault | result, s⟩
    · rfl
    · by_cases hf : fault.isConfiguration = true
      · simp only [Option.map_some, Step.conclude, if_pos hf]
        rfl
      · simp only [Option.map_some, Step.conclude, if_neg hf]
        rfl
    · obtain ⟨hpassed, hfiles⟩ := settleOn_published r disk result s.world
      simp only [Option.map_some, Step.conclude]
      exact Prod.ext (congrArg Except.ok hpassed) hfiles

/-- **A run, whole.** -/
theorem run_eq (h : ∀ v, r.percentage = some v → v ≤ 100) (hc : r.context = some context) :
    r.run codec p now id action fs =
      match BaselineKey.parse r.baseline with
      | .error fault => (.error (.value (.baselineKey fault)), fs)
      | .ok key =>
        match perform (r.collaborators codec p)
          (Engine.execute ⟨r.policy p⟩ now (r.check p id context action key)) ⟨.standard, fs⟩ with
        | (none, s) => (.error .brokenOff, s.world)
        | (some (.error fault), s) =>
          (if fault.isConfiguration then .error fault else .ok false, s.world)
        | (some (.ok result), s) =>
          (.ok (Step.passes result),
            AttachmentFiles.publish ⟨r.diffOut, r.reportOut⟩ codec result s.world) := by
  have hwhole : r.runOn (.willing codec) p now id action fs = _ := runOn_eq h hc
  exact hwhole

end RunRequest

end VisualRegression
