import VisualRegression.Check.Program

/-!
# The engine

The course of a check. An image is taken: a plan is asked for, the page is captured, the tiles are
put together, the regions to ignore are found and masked. Then the image is kept as the baseline or
compared with it. A request that cannot be honoured is refused before anything is asked of others.
-/

namespace VisualRegression

/-- How an engine treats images. -/
structure Engine where
  policy : Policy := {}
deriving Inhabited

namespace Engine

/-- How the engine compares images. -/
def comparer (e : Engine) : Comparer := ⟨e.policy.tolerance, e.policy.diffColor⟩

/-- The parameters of a check's capture: its own, or else those of the policy. -/
def parameters (e : Engine) (c : Check) : CaptureParameters :=
  c.parameters.getD e.policy.parameters

/-- Adds the places of one locator; an area is its own place. -/
def resolveOne (context : SearchContext) (found : OrderedSet Rect) :
    Locator → CheckProgram (OrderedSet Rect)
  | .area r => pure (found.insert r)
  | locator => do return found.union (← CheckProgram.resolve context locator)

/-- The places of the locators of one kind. -/
def resolveKind (context : SearchContext) :
    Option (OrderedSet Locator) → CheckProgram (Option (OrderedSet Rect))
  | none => pure none
  | some locators => do return some (← locators.toList.foldlM (resolveOne context) ∅)

/-- The places of all locators, those of elements first. -/
def resolveIgnores (context : SearchContext) (locators : LocatorMap) : CheckProgram IgnoreMap := do
  let element ← resolveKind context locators.element
  let area ← resolveKind context locators.area
  return ⟨element, area⟩

/-- Shows images on the way, one after the other. -/
def presentAll : List Snapshot → CheckProgram Unit
  | [] => pure ()
  | s :: rest => do
    CheckProgram.present s
    presentAll rest

/-- Takes the image of a check: captured, put together and masked. -/
def takeImage (e : Engine) (c : Check) : CheckProgram Image := do
  let context ← match c.context with
    | some context => pure context
    | none => throw (.request .noContext)
  let plan ← CheckProgram.plan (e.parameters c)
  let tiles ← CheckProgram.capture context plan
  let img ← ExceptT.mk (pure ((plan.assemble tiles).mapError .capture))
  let ignores ← resolveIgnores context c.ignores
  let (masked, snapshots) := Mask.apply e.policy.maskColor img ignores plan.topAdjustment
  presentAll snapshots
  return masked

/-- Keeps the image of a check as its baseline. -/
def establish (e : Engine) (now : Instant) (c : Check) : CheckProgram CheckResult := do
  ExceptT.mk (pure c.validate)
  let checkpoint ← e.takeImage c
  let previous ← CheckProgram.loadIfReadable c.baseline
  CheckProgram.save c.baseline checkpoint
  return .established c now checkpoint previous

/-- What a comparison of a checkpoint with a baseline comes to. A difference in size is a finding of
the check; any other fault leaves it without a result. -/
def judge (e : Engine) (now : Instant) (c : Check) (checkpoint baseline : Image)
    (percentage : UInt8) : Except CheckFault CheckResult :=
  match e.comparer.compare checkpoint baseline percentage with
  | .ok found => .ok (.compared c now checkpoint baseline found)
  | .error (.sizeMismatch b s) =>
    .ok (.invalidBaseline c now checkpoint baseline (CaptureFault.sizeMismatch b s).message)
  | .error fault => .error (.capture fault)

/-- Compares the image of a check with its baseline. -/
def compareWithBaseline (e : Engine) (now : Instant) (c : Check) : CheckProgram CheckResult := do
  ExceptT.mk (pure c.validate)
  let percentage ← match c.threshold? with
    | some percentage => pure percentage
    | none => throw (.request (.notComparing c.action))
  let checkpoint ← e.takeImage c
  match ← CheckProgram.load c.baseline with
  | none => return .baselineMissing c now checkpoint
  | some baseline => ExceptT.mk (pure (e.judge now c checkpoint baseline percentage))

/-- Does what the action of a check says. -/
def execute (e : Engine) (now : Instant) (c : Check) : CheckProgram CheckResult :=
  match c.action with
  | .establish => e.establish now c
  | .compare | .checkInequality => e.compareWithBaseline now c

end Engine

end VisualRegression
