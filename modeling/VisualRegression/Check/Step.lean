import VisualRegression.Check.Configuration
import VisualRegression.Check.Engine

/-!
# Test steps

A check as a step of a test. The step makes the check, runs it, publishes its result and asserts
its verdict. A wrong request is handed back; any other fault is a failed assertion, so that the
test goes on. Main statement: `assertions_length_le` says that a result is asserted at most once.
-/

namespace VisualRegression

/-- The name of the form in which results are published. -/
def publicationTemplate : String := "visual-comparison"

/-- The title under which results are published. -/
def publicationTitle : String := "Visual comparison"

/-- What is asserted of a compared result. -/
def passedAssertion : String := "Visual check passed"

/-- What may be given with a step. -/
structure StepParameters where
  ignores : LocatorMap := ∅
  acceptable : Option UInt8 := none
  required : Option UInt8 := none
deriving Inhabited

/-- What a step lets others see. -/
inductive StepEvent where
  /-- A result is published. -/
  | published (result : CheckResult)
  /-- A condition is asserted. -/
  | asserted (description : String) (condition : Bool)
  /-- A failed assertion is recorded. -/
  | failed (message : String)

/-- How a step ends. -/
structure StepOutcome where
  /-- Nothing, or why the request was wrong. -/
  returned : Except CheckFault Unit
  /-- What the step let others see, in order. -/
  events : List StepEvent

namespace Step

/-- Refuses a percentage above one hundred. -/
def checkPercentage : Option UInt8 → Except CheckFault Unit
  | some value => if value > 100 then .error (.request (.stepPercentageTooLarge value)) else .ok ()
  | none => .ok ()

/-- Refuses parameters with a percentage above one hundred, the acceptable one first. -/
def validate (p : StepParameters) : Except CheckFault Unit := do
  checkPercentage p.acceptable
  checkPercentage p.required

/-- What to ignore of one kind: what the configuration says or what the step says, but not both. -/
def mergeKind (configured given : Option (OrderedSet Locator)) :
    Except CheckFault (Option (OrderedSet Locator)) :=
  match given.bind CaptureConfiguration.nonEmpty?,
      configured.bind CaptureConfiguration.nonEmpty? with
  | none, configured => .ok configured
  | some given, none => .ok (some given)
  | some _, some _ => .error (.request .ignoresTwice)

/-- The check with what is given with the step. -/
def amend (c : Check) (p : StepParameters) : Except CheckFault Check := do
  let element ← mergeKind c.ignores.element p.ignores.element
  let area ← mergeKind c.ignores.area p.ignores.area
  return { c with
    ignores := ⟨element, area⟩
    acceptable := p.acceptable <|> c.acceptable
    required := p.required <|> c.required }

/-- The check of a step. -/
def prepare (f : CheckFactory) (id : CheckId) (context : SearchContext) (action : Action)
    (name : String) (parameters : Option StepParameters)
    (configuration : Option CaptureConfiguration) : Except CheckFault Check := do
  let check ← f.create id name action configuration
  let check ← match parameters with
    | some p => amend check p
    | none => .ok check
  return { check with context := some context }

/-- What is asserted of a result: nothing of a kept baseline, a failure where none was found or it
could not be compared with, and else the verdict. -/
def assertions (r : CheckResult) : List StepEvent :=
  if r.action = .establish then []
  else if !r.baselineFound then
    [.failed ("Unable to find baseline with name: " ++ r.baselineName.text)]
  else match r.failure with
    | some reason => [.failed reason]
    | none => [.asserted passedAssertion (r.verdict.getD false)]

/-- A result is asserted at most once. -/
theorem assertions_length_le (r : CheckResult) : (assertions r).length ≤ 1 := by
  unfold assertions
  split
  · simp
  · split
    · simp
    · split <;> simp

/-- How a step ends whose check ended so. -/
def conclude : Except CheckFault CheckResult → StepOutcome
  | .ok r => ⟨.ok (), .published r :: assertions r⟩
  | .error fault =>
    if fault.isConfiguration then ⟨.error fault, []⟩ else ⟨.ok (), [.failed fault.message]⟩

/-- The course of a step. Without a page to look at there is nothing to do, but percentages are
checked before. -/
def program (e : Engine) (f : CheckFactory) (now : Instant) (id : CheckId)
    (context : Option SearchContext) (action : Action) (name : String)
    (parameters : Option StepParameters) (configuration : Option CaptureConfiguration) :
    Program StepOutcome :=
  match (parameters.map validate).getD (.ok ()) with
  | .error fault => .done ⟨.error fault, []⟩
  | .ok () =>
    match context with
    | none => .done ⟨.ok (), []⟩
    | some context =>
      match prepare f id context action name parameters configuration with
      | .error fault => .done ⟨.error fault, []⟩
      | .ok check => do return conclude (← (e.execute now check).run)

end Step

end VisualRegression
