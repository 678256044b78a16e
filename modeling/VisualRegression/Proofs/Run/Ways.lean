import VisualRegression.Proofs.Run.Outcome

/-!
# How a run ends

`Checked` says what the check of a run does on a disk that may refuse and what it comes to, and
`Ran` how the run ends then.  That there are no other ways is `exists_checked` and `ran_runOn`.
-/

namespace VisualRegression

open FileSystem CheckProgram

namespace RunRequest

/-- What the step of a run is asked for. -/
def stepRequest (r : RunRequest) (action : Action) : StepRequest :=
  ⟨r.context, action, r.baseline, some (r.parameters action), some r.configuration⟩

theorem step_eq_program {r : RunRequest} {p : Policy} {now : Instant} {id : CheckId}
    {action : Action} :
    r.step p now id action =
      (r.stepRequest action).program ⟨r.policy p⟩ ⟨r.policy p⟩ now id := rfl

/-- The percentage of a run is no larger than what its step may be given. -/
theorem percentage_le {r : RunRequest} {action : Action} {bound : UInt8}
    (ha : ∀ v, (r.parameters action).acceptable = some v → v ≤ bound)
    (hr : ∀ v, (r.parameters action).required = some v → v ≤ bound) :
    ∀ v, r.percentage = some v → v ≤ bound := by
  intro v hv
  cases action with
  | establish | compare => exact ha v hv
  | checkInequality => exact hr v hv

variable [WorkingDirectory]

variable {codec : ImageCodec} {r : RunRequest} {disk : Disk codec} {p : Policy} {now : Instant}
  {id : CheckId} {context : SearchContext} {action : Action} {key : BaselineKey}
  {fs fs' : FileSystem}

/-! ## What the check comes to -/

/-- **What the check of a run does on a disk**, what it comes to, and the files that it leaves. -/
inductive Checked (r : RunRequest) (disk : Disk codec) (p : Policy) (now : Instant) (id : CheckId)
    (context : SearchContext) (action : Action) (key : BaselineKey) (fs : FileSystem) :
    Except CheckFault CheckResult → FileSystem → Prop
  /-- No image can be taken. -/
  | noImage {fault : CheckFault} (hnone : r.candidate codec p fs = .error fault) :
      Checked r disk p now id context action key fs (.error fault) fs
  /-- The image was taken, and could not be saved. -/
  | unsaved {c : Image} {fault : CheckFault} (haction : action = .establish)
      (hc : r.Captures codec p fs c)
      (hsave : (disk.save (r.directory p) key c fs).1 = .error fault) :
      Checked r disk p now id context action key fs (.error fault)
        (disk.save (r.directory p) key c fs).2
  /-- The image was taken and saved. -/
  | established {c : Image} (haction : action = .establish) (hc : r.Captures codec p fs c)
      (hsave : (disk.save (r.directory p) key c fs).1 = .ok ()) :
      Checked r disk p now id context action key fs
        (.ok (.established (r.check p id context action key) now c
          (((r.directory p).load codec key fs).toOption.getD none)))
        (disk.save (r.directory p) key c fs).2
  /-- What should be the baseline cannot be read. -/
  | unreadable {c : Image} {fault : CheckFault} (haction : action ≠ .establish)
      (hc : r.Captures codec p fs c)
      (hload : (r.directory p).load codec key fs = .error fault) :
      Checked r disk p now id context action key fs (.error fault) fs
  /-- There is no baseline. -/
  | missing {c : Image} (haction : action ≠ .establish) (hc : r.Captures codec p fs c)
      (hload : (r.directory p).load codec key fs = .ok none) :
      Checked r disk p now id context action key fs
        (.ok (.baselineMissing (r.check p id context action key) now c)) fs
  /-- The image was compared with the baseline. -/
  | judged {c b : Image} {result : CheckResult} (haction : action ≠ .establish)
      (hc : r.Captures codec p fs c) (hb : codec.Holds fs (r.baselineFile p key) b)
      (hjudge : Engine.judge ⟨r.policy p⟩ now (r.check p id context action key) c b
        (r.percentage.getD 0) = .ok result) :
      Checked r disk p now id context action key fs (.ok result) fs

/-- **The check of a run does one of these things.** -/
theorem exists_checked (h : ∀ v, r.percentage = some v → v ≤ 100) (disk : Disk codec) (p : Policy)
    (now : Instant) (id : CheckId) (context : SearchContext) (action : Action) (key : BaselineKey)
    (fs : FileSystem) :
    ∃ ended fs', perform (r.partiesOn p disk)
        (Engine.execute ⟨r.policy p⟩ now (r.check p id context action key)) ⟨.standard, fs⟩ =
        (some ended, ⟨r.composer p, fs'⟩) ∧
      r.Checked disk p now id context action key fs ended fs' := by
  by_cases haction : action = .establish
  · have hestablish : (r.check p id context action key).action = .establish := haction
    rw [Engine.execute_of_establish hestablish, perform_establish h]
    rcases hc : r.candidate codec p fs with fault | c
    · exact ⟨_, _, rfl, .noImage hc⟩
    · have hcaptures := candidate_eq_ok.1 hc
      dsimp only
      rcases hsave : disk.save (r.directory p) key c fs with ⟨fault | ⟨⟩, fs'⟩
      · have hunsaved : r.Checked disk p now id context action key fs (.error fault)
            (disk.save (r.directory p) key c fs).2 :=
          .unsaved haction hcaptures (congrArg Prod.fst hsave)
        rw [hsave] at hunsaved
        exact ⟨_, _, rfl, hunsaved⟩
      · have hsaved : r.Checked disk p now id context action key fs (.ok _)
            (disk.save (r.directory p) key c fs).2 :=
          .established haction hcaptures (congrArg Prod.fst hsave)
        rw [hsave] at hsaved
        exact ⟨_, _, rfl, hsaved⟩
  · rw [Engine.execute_of_ne_establish haction, perform_compareWithBaseline h haction]
    rcases hc : r.candidate codec p fs with fault | c
    · exact ⟨_, _, rfl, .noImage hc⟩
    · have hcaptures := candidate_eq_ok.1 hc
      rw [ok_bind]
      rcases hload : (r.directory p).load codec key fs with fault | _ | b
      · exact ⟨_, _, rfl, .unreadable haction hcaptures hload⟩
      · exact ⟨_, _, rfl, .missing haction hcaptures hload⟩
      · obtain ⟨result, hjudge, -⟩ := exists_judge p id now context key h haction c b
        refine ⟨.ok result, fs, ?_, .judged haction hcaptures (load_eq_some_iff.1 hload) hjudge⟩
        rw [ok_bind]
        dsimp only
        rw [hjudge]

/-- A check that ends with a fault of its configuration leaves the files alone. -/
theorem Checked.eq_of_isConfiguration {fault : CheckFault}
    (h : r.Checked disk p now id context action key fs (.error fault) fs')
    (hfault : fault.isConfiguration = true) : fs' = fs := by
  cases h with
  | noImage | unreadable => rfl
  | unsaved haction hc hsave =>
    rw [disk.isConfiguration_of_save hsave] at hfault
    cases hfault

/-! ## How the run ends -/

/-- **How a run ends on a disk**, and the files that it leaves. -/
inductive Ran (r : RunRequest) (disk : Disk codec) (p : Policy) (now : Instant) (id : CheckId)
    (action : Action) (fs : FileSystem) : Except CheckFault Bool → FileSystem → Prop
  /-- The request is wrong. -/
  | refused {fault : CheckFault} (hfault : fault.isConfiguration = true) :
      Ran r disk p now id action fs (.error fault) fs
  /-- There is no page to look at. -/
  | skipped (hcontext : r.context = none) : Ran r disk p now id action fs (.ok true) fs
  /-- The check has no result. -/
  | failed {context : SearchContext} {key : BaselineKey} {fault : CheckFault} {fs' : FileSystem}
      (hcontext : r.context = some context) (hkey : BaselineKey.parse r.baseline = .ok key)
      (hperform : perform (r.partiesOn p disk)
        (Engine.execute ⟨r.policy p⟩ now (r.check p id context action key)) ⟨.standard, fs⟩ =
        (some (.error fault), ⟨r.composer p, fs'⟩))
      (hchecked : r.Checked disk p now id context action key fs (.error fault) fs')
      (hfault : fault.isConfiguration = false) : Ran r disk p now id action fs (.ok false) fs'
  /-- The check has a result, and this is published. -/
  | settled {context : SearchContext} {key : BaselineKey} {result : CheckResult} {fs' : FileSystem}
      (hcontext : r.context = some context) (hkey : BaselineKey.parse r.baseline = .ok key)
      (hperform : perform (r.partiesOn p disk)
        (Engine.execute ⟨r.policy p⟩ now (r.check p id context action key)) ⟨.standard, fs⟩ =
        (some (.ok result), ⟨r.composer p, fs'⟩))
      (hchecked : r.Checked disk p now id context action key fs (.ok result) fs') :
      Ran r disk p now id action fs (.ok (Step.passes result))
        (disk.publish ⟨r.diffOut, r.reportOut⟩ result fs')

/-- A run whose step is not valid ends before its check. -/
theorem runOn_of_not_valid {fault : CheckFault}
    (hvalid : (r.stepRequest action).validate = .error fault) :
    r.runOn disk p now id action fs = (.error fault, fs) := by
  unfold runOn
  rw [step_eq_program, StepRequest.program_of_not_valid _ _ _ _ hvalid]
  rfl

/-- A run without a page to look at ends before its check. -/
theorem runOn_of_no_context (hvalid : (r.stepRequest action).validate = .ok ())
    (hcontext : r.context = none) : r.runOn disk p now id action fs = (.ok true, fs) := by
  unfold runOn
  rw [step_eq_program, StepRequest.program_of_no_context _ _ _ _ hvalid hcontext]
  rfl

/-- **A run on a disk ends in one of these ways.** -/
theorem ran_runOn (r : RunRequest) (disk : Disk codec) (p : Policy) (now : Instant) (id : CheckId)
    (action : Action) (fs : FileSystem) :
    r.Ran disk p now id action fs (r.runOn disk p now id action fs).1
      (r.runOn disk p now id action fs).2 := by
  rcases hvalid : (r.stepRequest action).validate with fault | ⟨⟩
  · rw [runOn_of_not_valid hvalid]
    exact .refused (StepRequest.isConfiguration_of_validate hvalid)
  · rcases hcontext : r.context with _ | context
    · rw [runOn_of_no_context hvalid hcontext]
      exact .skipped hcontext
    · obtain ⟨ha, hr⟩ := StepRequest.validate_eq_ok_iff.1 hvalid _ rfl
      have h := percentage_le ha hr
      rw [runOn_eq h hcontext]
      rcases hkey : BaselineKey.parse r.baseline with fault | key
      · exact .refused rfl
      · obtain ⟨ended, fs', hperform, hchecked⟩ :=
          exists_checked h disk p now id context action key fs
        dsimp only
        rw [hperform]
        rcases ended with fault | result
        · dsimp only
          by_cases hfault : fault.isConfiguration = true
          · obtain rfl := hchecked.eq_of_isConfiguration hfault
            rw [if_pos hfault]
            exact .refused hfault
          · rw [if_neg hfault]
            exact .failed hcontext hkey hperform hchecked (Bool.eq_false_iff.2 hfault)
        · exact .settled hcontext hkey hperform hchecked

end RunRequest

end VisualRegression
