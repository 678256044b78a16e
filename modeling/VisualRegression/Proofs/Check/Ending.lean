import VisualRegression.Check.Step
import VisualRegression.Proofs.Check.Verdict
import VisualRegression.Proofs.Failing
import VisualRegression.Run.SoftAssert

/-!
# How a step ends

A step is refused, skipped, judged or failed.  `Ends` says of each ending when it comes about and
what the step then lets others see; `Records` says what is recorded of a result that was published.
That the record agrees with the verdict rests on what results there are: a check that compares ends
with a result that has a verdict (`verdict_of_execute`).  Main statement: `ends_one_way`.
-/

namespace VisualRegression

open CheckProgram

/-! ## Parties that answer -/

/-- No party breaks off: each request is answered, be it with a fault. -/
structure Collaborators.Answering {σ : Type} (parties : Collaborators σ) : Prop where
  capture : ∀ context plan w, (parties.capture context plan w).1.isSome
  resolve : ∀ context locator w, (parties.resolve context locator w).1.isSome
  present : ∀ snapshot w, parties.breaksOff snapshot w = false

theorem Collaborators.answering_ofStore {σ : Type}
    (capture : SearchContext → CapturePlan → σ → Except CheckFault (List Image))
    (resolve : SearchContext → Locator → Except CheckFault (OrderedSet Rect))
    (store : BaselineStore σ) : (ofStore capture resolve store).Answering :=
  ⟨fun _ _ _ => rfl, fun _ _ _ => rfl, fun _ _ => rfl⟩

/-- With parties that answer, every program comes to its end. -/
theorem Program.exists_run {α σ : Type} {parties : Collaborators σ} (h : parties.Answering)
    (p : Program α) (s : Shared σ) : ∃ a s', p.run parties s = (some a, s') := by
  induction p generalizing s with
  | done a => exact ⟨a, s, rfl⟩
  | plan q next ih => exact ih _ _
  | capture context q next ih =>
    obtain ⟨answer, hanswer⟩ := Option.isSome_iff_exists.1 (h.capture context q s.world)
    simp only [run]
    rcases hcapture : parties.capture context q s.world with ⟨_ | _, w⟩ <;> rw [hcapture] at hanswer
    · cases hanswer
    · exact ih _ _
  | resolve context locator next ih =>
    obtain ⟨answer, hanswer⟩ := Option.isSome_iff_exists.1 (h.resolve context locator s.world)
    simp only [run]
    rcases hresolve : parties.resolve context locator s.world with ⟨_ | _, w⟩ <;>
      rw [hresolve] at hanswer
    · cases hanswer
    · exact ih _ _
  | present snapshot next ih =>
    simp only [run, Collaborators.observe, h.present, Bool.false_eq_true, if_false]
    exact ih _
  | load key next ih => exact ih _ _
  | save key img next ih => exact ih _ _

/-! ## Results of checks -/

namespace Engine

variable {σ : Type} {parties : Collaborators σ} {s s' : Shared σ} {e : Engine} {now : Instant}
  {c : Check} {r : CheckResult}

/-- **A result is of the action of its check, and of a check that compares it has a verdict.** -/
theorem verdict_of_execute (h : perform parties (e.execute now c) s = (some (.ok r), s')) :
    r.action = c.action ∧ (c.action ≠ .establish → ∃ v, r.verdict = some v) := by
  by_cases hc : c.action = .establish
  · rw [execute_of_establish hc] at h
    obtain ⟨-, checkpoint, s₁, -, -, rfl, -⟩ := perform_establish_ok.1 h
    exact ⟨rfl, fun hne => absurd hc hne⟩
  · rw [execute_of_ne_establish hc] at h
    obtain ⟨-, percentage, -, checkpoint, s₁, -, -, hr⟩ := perform_compareWithBaseline_ok.1 h
    rcases hr with ⟨-, rfl⟩ | ⟨baseline, -, hjudge⟩
    · refine ⟨rfl, fun _ => ⟨false, ?_⟩⟩
      rw [CheckResult.verdict_baselineMissing, if_neg hc]
    · obtain ⟨-, v, hv, -⟩ := judge_ok hc hjudge
      exact ⟨action_of_judge hjudge, fun _ => ⟨v, hv⟩⟩

end Engine

/-! ## Requests -/

/-- What a step is asked for. -/
structure StepRequest where
  context : Option SearchContext
  action : Action
  name : String
  parameters : Option StepParameters
  configuration : Option CaptureConfiguration

namespace StepRequest

/-- The course of the step. -/
def program (q : StepRequest) (e : Engine) (f : CheckFactory) (now : Instant) (id : CheckId) :
    Program StepOutcome :=
  Step.program e f now id q.context q.action q.name q.parameters q.configuration

/-- The check of the step, on a page. -/
def check (q : StepRequest) (f : CheckFactory) (id : CheckId) (context : SearchContext) :
    Except CheckFault Check :=
  Step.prepare f id context q.action q.name q.parameters q.configuration

/-- Refuses the step if one of its percentages is above one hundred. -/
def validate (q : StepRequest) : Except CheckFault Unit :=
  (q.parameters.map Step.validate).getD (.ok ())

variable {q : StepRequest} {f : CheckFactory} {id : CheckId} {context : SearchContext}
  {fault : CheckFault} {check : Check}

/-- A step is on to its check exactly if no percentage given with it is above one hundred. -/
theorem validate_eq_ok_iff :
    q.validate = .ok () ↔ ∀ p, q.parameters = some p →
      (∀ v, p.acceptable = some v → v ≤ 100) ∧ ∀ v, p.required = some v → v ≤ 100 := by
  have one (p : Option UInt8) : Step.checkPercentage p = .ok () ↔ ∀ v, p = some v → v ≤ 100 := by
    rcases p with _ | v
    · simp [Step.checkPercentage]
    · by_cases hv : v > 100
      · simp [Step.checkPercentage, hv, UInt8.not_le.2 hv]
      · simp [Step.checkPercentage, hv, UInt8.not_lt.1 hv]
  cases hp : q.parameters with
  | none => simp [validate, hp]
  | some p =>
    have hvalidate : q.validate = Step.validate p := by simp [validate, hp]
    rw [hvalidate, Step.validate]
    simp only [bind_eq_ok, one, Option.some.injEq, forall_eq']
    exact ⟨fun ⟨_, ha, hr⟩ => ⟨ha, hr⟩, fun ⟨ha, hr⟩ => ⟨(), ha, hr⟩⟩

/-- Whatever makes a step refuse its percentages lies in the request. -/
theorem isConfiguration_of_validate (h : q.validate = .error fault) :
    fault.isConfiguration = true := by
  have one {p : Option UInt8} (hp : Step.checkPercentage p = .error fault) :
      fault.isConfiguration = true := by
    unfold Step.checkPercentage at hp
    split at hp
    · split at hp
      · cases hp
        rfl
      · cases hp
    · cases hp
  cases hp : q.parameters with
  | none => simp [validate, hp] at h
  | some p =>
    have hvalidate : Step.validate p = .error fault := by simpa [validate, hp] using h
    obtain ha | ⟨_, -, hr⟩ := bind_eq_error.1 hvalidate
    · exact one ha
    · exact one hr

end StepRequest

namespace Step

variable {c : Check} {p : StepParameters} {f : CheckFactory} {id : CheckId}
  {context : SearchContext} {action : Action} {name : String} {parameters : Option StepParameters}
  {configuration : Option CaptureConfiguration} {fault : CheckFault}

theorem isConfiguration_of_mergeKind {configured given : Option (OrderedSet Locator)}
    (h : mergeKind configured given = .error fault) : fault.isConfiguration = true := by
  unfold mergeKind at h
  split at h
  · cases h
  · cases h
  · cases h
    rfl

theorem isConfiguration_of_amend (h : amend c p = .error fault) : fault.isConfiguration = true := by
  obtain hmerge | ⟨_, -, h⟩ := bind_eq_error.1 h
  · exact isConfiguration_of_mergeKind hmerge
  · obtain hmerge | ⟨_, -, h⟩ := bind_eq_error.1 h
    · exact isConfiguration_of_mergeKind hmerge
    · cases h

theorem action_of_amend {amended : Check} (h : amend c p = .ok amended) :
    amended.action = c.action := by
  obtain ⟨_, -, h⟩ := bind_eq_ok.1 h
  obtain ⟨_, -, h⟩ := bind_eq_ok.1 h
  cases h
  rfl

theorem isConfiguration_of_create
    (h : f.create id name action configuration = .error fault) : fault.isConfiguration = true := by
  unfold CheckFactory.create at h
  split at h
  · cases h
    rfl
  · cases h

theorem action_of_create (h : f.create id name action configuration = .ok c) :
    c.action = action := by
  unfold CheckFactory.create at h
  split at h
  · cases h
  · cases h
    rfl

/-- Whatever keeps a step from having a check lies in the request. -/
theorem isConfiguration_of_prepare
    (h : prepare f id context action name parameters configuration = .error fault) :
    fault.isConfiguration = true := by
  obtain hcreate | ⟨c, -, h⟩ := bind_eq_error.1 h
  · exact isConfiguration_of_create hcreate
  · cases parameters with
    | none => cases h
    | some p =>
      obtain hamend | ⟨_, -, h⟩ := bind_eq_error.1 h
      · exact isConfiguration_of_amend hamend
      · cases h

theorem action_of_prepare
    (h : prepare f id context action name parameters configuration = .ok c) :
    c.action = action := by
  obtain ⟨created, hcreate, h⟩ := bind_eq_ok.1 h
  have haction := action_of_create hcreate
  cases parameters with
  | none =>
    cases h
    exact haction
  | some p =>
    obtain ⟨amended, hamend, h⟩ := bind_eq_ok.1 h
    cases h
    exact (action_of_amend hamend).trans haction

/-- What a step does after its check: it concludes. -/
theorem run_conclude {σ : Type} (parties : Collaborators σ) (x : CheckProgram CheckResult)
    (s : Shared σ) :
    Program.run parties (do return conclude (← x.run)) s =
      ((perform parties x s).1.map conclude, (perform parties x s).2) := by
  rw [Program.run_bind]
  unfold perform
  rcases Program.run parties x.run s with ⟨_ | _, s'⟩ <;> rfl

end Step

/-! ## Endings -/

/-- The four ways in which a step can end. -/
inductive StepEnding where
  /-- The request is wrong and handed back. -/
  | refused
  /-- There is no page to look at. -/
  | skipped
  /-- There is a result. -/
  | judged
  /-- Something went wrong that is no fault of the request. -/
  | failed
deriving DecidableEq, Repr

/-- Which of the four it is, told by what the step returned and let others see. -/
def StepOutcome.ending (outcome : StepOutcome) : StepEnding :=
  match outcome.returned, outcome.events with
  | .error _, _ => .refused
  | .ok (), [] => .skipped
  | .ok (), .published _ :: _ => .judged
  | .ok (), _ :: _ => .failed

/-- The event is an assertion, be it one that fails by itself. -/
def StepEvent.isAssertion : StepEvent → Bool
  | .published _ => false
  | .asserted _ _ | .failed _ => true

/-- **What is recorded of a result** that a step published, after the action of the step. -/
inductive Records (action : Action) (r : CheckResult) : List StepEvent → Prop
  /-- A baseline was kept, and nothing is recorded. -/
  | nothing (haction : action = .establish) : Records action r []
  /-- There was no baseline to compare with. -/
  | missing (haction : action ≠ .establish) (hfound : r.baselineFound = false) :
      Records action r [.failed ("Unable to find baseline with name: " ++ r.baselineName.text)]
  /-- The baseline could not be compared with. -/
  | incomparable {reason : String} (haction : action ≠ .establish) (hfound : r.baselineFound = true)
      (hfailure : r.failure = some reason) : Records action r [.failed reason]
  /-- The images were compared, and the verdict is asserted. -/
  | verdict {v : Bool} (haction : action ≠ .establish) (hfound : r.baselineFound = true)
      (hfailure : r.failure = none) (hverdict : r.verdict = some v) :
      Records action r [.asserted passedAssertion v]

section Records

variable {action : Action} {r : CheckResult} {records : List StepEvent}

/-- What a step asserts of a result is what is recorded of it, if there is a verdict where there
should be one. -/
theorem records_assertions (haction : r.action = action)
    (hverdict : action ≠ .establish → ∃ v, r.verdict = some v) :
    Records action r (Step.assertions r) := by
  unfold Step.assertions
  by_cases hest : action = .establish
  · rw [if_pos (haction.trans hest)]
    exact .nothing hest
  · rw [if_neg fun h => hest (haction.symm.trans h)]
    obtain ⟨v, hv⟩ := hverdict hest
    cases hfound : r.baselineFound with
    | false => exact .missing hest hfound
    | true =>
      cases hfailure : r.failure with
      | some reason => exact .incomparable hest hfound hfailure
      | none =>
        rw [hv]
        exact .verdict hest hfound hfailure hv

theorem Records.length_le (h : Records action r records) : records.length ≤ 1 := by
  cases h <;> simp

/-- **A failure is recorded of a result exactly if its verdict is that the check failed.** -/
theorem Records.any_isFailure (haction : r.action = action) (h : Records action r records) :
    (∃ event ∈ records, SoftAssert.isFailure event = true) ↔ r.verdict = some false := by
  cases h with
  | nothing hest => simp [CheckResult.verdict, haction, hest]
  | missing hest hfound => simp [CheckResult.verdict, haction, hest, hfound, SoftAssert.isFailure]
  | incomparable hest hfound hfailure =>
    simp [CheckResult.verdict, haction, hest, hfailure, SoftAssert.isFailure]
  | verdict hest hfound hfailure hv => simp [hv, SoftAssert.isFailure]

end Records

namespace StepRequest

section Endings

variable {σ : Type} (q : StepRequest) (e : Engine) (f : CheckFactory) (now : Instant)
  (id : CheckId) (parties : Collaborators σ) (s : Shared σ)

/-- **Why a step hands back a fault**: a percentage is none, there is no check to be had, or the
check itself ended so. -/
inductive Refuses : CheckFault → Shared σ → Prop
  | percentage {fault : CheckFault} (hvalid : q.validate = .error fault) : Refuses fault s
  | noCheck {context : SearchContext} {fault : CheckFault} (hvalid : q.validate = .ok ())
      (hcontext : q.context = some context) (hcheck : q.check f id context = .error fault) :
      Refuses fault s
  | byCheck {context : SearchContext} {check : Check} {fault : CheckFault} {s' : Shared σ}
      (hvalid : q.validate = .ok ()) (hcontext : q.context = some context)
      (hcheck : q.check f id context = .ok check)
      (hperform : perform parties (e.execute now check) s = (some (.error fault), s')) :
      Refuses fault s'

/-- **How a step ends**: which of the four ways it is, what the step lets others see, and the state
that it leaves. -/
inductive Ends : StepEnding → StepOutcome → Shared σ → Prop
  /-- Nothing is published and nothing is recorded. -/
  | refused {fault : CheckFault} {s' : Shared σ}
      (hrefuses : Refuses q e f now id parties s fault s')
      (hfault : fault.isConfiguration = true) : Ends .refused ⟨.error fault, []⟩ s'
  /-- Nobody is asked for anything, and the name of the baseline is not even looked at. -/
  | skipped (hvalid : q.validate = .ok ()) (hcontext : q.context = none)
      (hprogram : q.program e f now id = .done ⟨.ok (), []⟩) : Ends .skipped ⟨.ok (), []⟩ s
  /-- The result is published once, and first. -/
  | judged {context : SearchContext} {check : Check} {r : CheckResult} {s' : Shared σ}
      {records : List StepEvent} (hvalid : q.validate = .ok ())
      (hcontext : q.context = some context) (hcheck : q.check f id context = .ok check)
      (hperform : perform parties (e.execute now check) s = (some (.ok r), s'))
      (hrecords : Records q.action r records) : Ends .judged ⟨.ok (), .published r :: records⟩ s'
  /-- Nothing is published, and the fault is recorded. -/
  | failed {context : SearchContext} {check : Check} {fault : CheckFault} {s' : Shared σ}
      (hvalid : q.validate = .ok ()) (hcontext : q.context = some context)
      (hcheck : q.check f id context = .ok check)
      (hperform : perform parties (e.execute now check) s = (some (.error fault), s'))
      (hfault : fault.isConfiguration = false) : Ends .failed ⟨.ok (), [.failed fault.message]⟩ s'

end Endings

variable {σ : Type} {q : StepRequest} {e : Engine} {f : CheckFactory} {now : Instant}
  {id : CheckId} {parties : Collaborators σ} {s s' : Shared σ} {outcome : StepOutcome}
  {ending : StepEnding} {r : CheckResult}

section Program

variable (e : Engine) (f : CheckFactory) (now : Instant) (id : CheckId)

theorem program_of_not_valid {fault : CheckFault} (h : q.validate = .error fault) :
    q.program e f now id = .done ⟨.error fault, []⟩ := by
  unfold validate at h
  unfold program Step.program
  rw [h]

theorem program_of_no_context (h : q.validate = .ok ()) (hcontext : q.context = none) :
    q.program e f now id = .done ⟨.ok (), []⟩ := by
  unfold validate at h
  unfold program Step.program
  rw [h, hcontext]

theorem program_of_context {context : SearchContext} (h : q.validate = .ok ())
    (hcontext : q.context = some context) :
    q.program e f now id =
      match q.check f id context with
      | .error fault => .done ⟨.error fault, []⟩
      | .ok check => do return Step.conclude (← (e.execute now check).run) := by
  unfold validate at h
  unfold program Step.program
  rw [h, hcontext]
  rfl

end Program

/-- A step that has its check ends as this does: handed back, recorded or published. -/
theorem exists_ends_of_check {context : SearchContext} {check : Check}
    (hvalid : q.validate = .ok ()) (hcontext : q.context = some context)
    (hcheck : q.check f id context = .ok check) {ended : Except CheckFault CheckResult}
    (hperform : perform parties (e.execute now check) s = (some ended, s')) :
    ∃ ending, q.Ends e f now id parties s ending (Step.conclude ended) s' := by
  cases ended with
  | error fault =>
    by_cases hfault : fault.isConfiguration = true
    · rw [show Step.conclude (.error fault) = ⟨.error fault, []⟩ from if_pos hfault]
      exact ⟨.refused, .refused (.byCheck hvalid hcontext hcheck hperform) hfault⟩
    · rw [show Step.conclude (.error fault) = ⟨.ok (), [.failed fault.message]⟩ from
        if_neg hfault]
      exact ⟨.failed, .failed hvalid hcontext hcheck hperform (Bool.eq_false_iff.2 hfault)⟩
  | ok r =>
    obtain ⟨haction, hverdict⟩ := Engine.verdict_of_execute hperform
    have hsame : check.action = q.action := Step.action_of_prepare hcheck
    rw [hsame] at haction hverdict
    exact ⟨.judged, .judged hvalid hcontext hcheck hperform (records_assertions haction hverdict)⟩

/-- **A step ends in one of the four ways.** -/
theorem exists_ends (h : (q.program e f now id).run parties s = (some outcome, s')) :
    ∃ ending, q.Ends e f now id parties s ending outcome s' := by
  cases hvalid : q.validate with
  | error fault =>
    rw [program_of_not_valid e f now id hvalid] at h
    cases h
    exact ⟨.refused, .refused (.percentage hvalid) (isConfiguration_of_validate hvalid)⟩
  | ok =>
    cases hcontext : q.context with
    | none =>
      have hprogram := program_of_no_context e f now id hvalid hcontext
      rw [hprogram] at h
      cases h
      exact ⟨.skipped, .skipped hvalid hcontext hprogram⟩
    | some context =>
      rw [program_of_context e f now id hvalid hcontext] at h
      cases hcheck : q.check f id context with
      | error fault =>
        rw [hcheck] at h
        cases h
        exact ⟨.refused, .refused (.noCheck hvalid hcontext hcheck)
          (Step.isConfiguration_of_prepare hcheck)⟩
      | ok check =>
        rw [hcheck] at h
        dsimp only at h
        rw [Step.run_conclude] at h
        rcases hperform : perform parties (e.execute now check) s with ⟨_ | ended, s''⟩ <;>
          rw [hperform] at h
        · cases h
        · cases h
          exact exists_ends_of_check hvalid hcontext hcheck hperform

/-- Which way it is can be told by what the step lets others see. -/
theorem Ends.eq_ending (h : q.Ends e f now id parties s ending outcome s') :
    ending = outcome.ending := by
  cases h <;> rfl

/-- At most one assertion is recorded. -/
theorem Ends.length_assertions_le (h : q.Ends e f now id parties s ending outcome s') :
    (outcome.events.filter StepEvent.isAssertion).length ≤ 1 := by
  cases h with
  | refused | skipped => exact Nat.zero_le 1
  | @judged _ _ _ _ records hvalid hcontext hcheck hperform hrecords =>
    show (records.filter StepEvent.isAssertion).length ≤ 1
    exact Nat.le_trans (List.length_filter_le _ _) hrecords.length_le
  | failed => exact Nat.le_refl 1

/-- A published result has a failure next to it exactly if its verdict is that the check failed. -/
theorem Ends.any_isFailure (h : q.Ends e f now id parties s ending outcome s')
    (hr : .published r ∈ outcome.events) :
    (∃ event ∈ outcome.events, SoftAssert.isFailure event = true) ↔ r.verdict = some false := by
  cases h with
  | refused | skipped => cases hr
  | failed => simp at hr
  | @judged context check published _ records hvalid hcontext hcheck hperform hrecords =>
    obtain rfl : r = published := by
      rcases List.mem_cons.1 hr with heq | hmem
      · exact StepEvent.published.inj heq
      · cases hrecords <;> simp at hmem
    have haction : r.action = q.action :=
      (Engine.verdict_of_execute hperform).1.trans (Step.action_of_prepare hcheck)
    rw [← hrecords.any_isFailure haction]
    simp [SoftAssert.isFailure]

/-- **A step ends in exactly one of four ways.**  It hands back a wrong request and shows nothing;
it asks nobody for anything where there is no page; it publishes the result of its check, once and
before anything is recorded of it; or it records the fault of its check and publishes nothing.  At
most one assertion is recorded, and next to a published result a failure is recorded exactly if the
verdict is that the check failed. -/
theorem ends_one_way (q : StepRequest) (e : Engine) (f : CheckFactory) (now : Instant)
    (id : CheckId) (parties : Collaborators σ) (s : Shared σ) :
    (parties.Answering →
      ∃ outcome s', (q.program e f now id).run parties s = (some outcome, s')) ∧
    ∀ outcome s', (q.program e f now id).run parties s = (some outcome, s') →
      (∃ ending, q.Ends e f now id parties s ending outcome s' ∧
        ∀ other, q.Ends e f now id parties s other outcome s' → other = ending) ∧
      (outcome.events.filter StepEvent.isAssertion).length ≤ 1 ∧
      ∀ r, .published r ∈ outcome.events →
        ((∃ event ∈ outcome.events, SoftAssert.isFailure event = true) ↔
          r.verdict = some false) := by
  refine ⟨fun hparties => Program.exists_run hparties _ s, ?_⟩
  intro outcome s' hrun
  obtain ⟨ending, hends⟩ := exists_ends hrun
  have hunique : ∀ other, q.Ends e f now id parties s other outcome s' → other = ending :=
    fun other hother => hother.eq_ending.trans hends.eq_ending.symm
  exact ⟨⟨ending, hends, hunique⟩, hends.length_assertions_le, fun r hr => hends.any_isFailure hr⟩

end StepRequest

namespace OneOfTwo

/-- A page that is compared with a baseline from which one of its two pixels differs. -/
def request : StepRequest where
  context := some ⟨"page"⟩
  action := .compare
  name := " home "
  parameters := some { acceptable := some 49 }
  configuration := none

end OneOfTwo

open OneOfTwo Engine.HalfDiffers in
/-- The result is published, its verdict is asserted, and the assertion fails. -/
theorem StepRequest.ends_one_way_one_of_two :
    ∃ r outcome s', (request.program {} {} ⟨0, 0⟩ ⟨"1"⟩).run parties shared = (some outcome, s') ∧
      request.Ends {} {} ⟨0, 0⟩ ⟨"1"⟩ parties shared .judged outcome s' ∧
      outcome.events = [.published r, .asserted passedAssertion false] ∧
      r.verdict = some false := by
  obtain ⟨hanswers, hends⟩ := ends_one_way request {} {} ⟨0, 0⟩ ⟨"1"⟩ parties shared
  obtain ⟨outcome, s', hrun⟩ := hanswers (Collaborators.answering_ofStore _ _ _)
  obtain ⟨⟨ending, hending, -⟩, -, hverdict⟩ := hends outcome s' hrun
  obtain ⟨r, hevents⟩ : ∃ r, outcome.events = [.published r, .asserted passedAssertion false] := by
    cases hrun
    exact ⟨_, rfl⟩
  have hjudged : ending = .judged := by
    cases hrun
    exact hending.eq_ending
  refine ⟨r, outcome, s', hrun, hjudged ▸ hending, hevents, ?_⟩
  refine (hverdict r ?_).1 ⟨.asserted passedAssertion false, ?_, rfl⟩
  · rw [hevents]
    exact List.mem_cons_self
  · rw [hevents]
    exact List.mem_cons_of_mem _ List.mem_cons_self

end VisualRegression
