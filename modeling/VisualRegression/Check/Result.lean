import VisualRegression.Base64
import VisualRegression.Check.Basic
import VisualRegression.Difference
import VisualRegression.Instant

/-!
# Results of checks

What a check found, its verdict, and the report made of it. There are four ways for a check to end
with a result: it kept a baseline, found none, compared with one, or found one of another size. Main
statements: `verdict_compared` and `verdict_baselineMissing` give the verdicts.
-/

namespace VisualRegression

/-- What a check found. -/
structure CheckResult where
  checkId : CheckId
  baselineName : BaselineKey
  action : Action
  /-- A baseline was there before the check. -/
  baselineFound : Bool
  diffPercentage : Float
  /-- Whether the images look the same, if they were compared. -/
  passed : Option Bool
  /-- Why the images could not be compared, in words. -/
  failure : Option String
  /-- The image that the check took. -/
  checkpoint : Image
  /-- The checkpoint with the differing pixels painted over. -/
  diff : Option Image
  /-- The baseline that was there before the check. -/
  baseline : Option Image
  /-- The smallest rectangle around the differing pixels. -/
  changedRegion : Option Rect
  checkedAt : Instant

namespace CheckResult

/-- The result of keeping a baseline, with the one that it replaces. -/
def established (c : Check) (now : Instant) (checkpoint : Image) (previous : Option Image) :
    CheckResult where
  checkId := c.id
  baselineName := c.baseline
  action := c.action
  baselineFound := previous.isSome
  diffPercentage := 0
  passed := none
  failure := none
  checkpoint
  diff := none
  baseline := previous
  changedRegion := none
  checkedAt := now

/-- The result of finding no baseline. -/
def baselineMissing (c : Check) (now : Instant) (checkpoint : Image) : CheckResult :=
  established c now checkpoint none

/-- The result of comparing with a baseline. -/
def compared (c : Check) (now : Instant) (checkpoint baseline : Image) (found : Difference) :
    CheckResult :=
  { established c now checkpoint (some baseline) with
    diffPercentage := found.percentage
    passed := some found.passed
    diff := some found.markup
    changedRegion := found.changedRegion }

/-- The result of finding a baseline that cannot be compared with. -/
def invalidBaseline (c : Check) (now : Instant) (checkpoint baseline : Image) (reason : String) :
    CheckResult :=
  { established c now checkpoint (some baseline) with
    diffPercentage := 100
    failure := some reason }

/-- Whether the check passes: keeping a baseline has no verdict, and a baseline that is missing or
cannot be compared with fails whatever was expected. -/
def verdict (r : CheckResult) : Option Bool :=
  if r.action = .establish then none
  else if !r.baselineFound || r.failure.isSome then some false
  else r.passed.bind r.action.verdict

/-- Of a comparison with a baseline, the verdict is that of the action. -/
theorem verdict_compared (c : Check) (now : Instant) (checkpoint baseline : Image)
    (found : Difference) :
    (compared c now checkpoint baseline found).verdict = c.action.verdict found.passed := by
  cases h : c.action <;> simp [verdict, compared, established, h, Action.verdict]

/-- A missing baseline fails every check that needs one. -/
theorem verdict_baselineMissing (c : Check) (now : Instant) (checkpoint : Image) :
    (baselineMissing c now checkpoint).verdict =
      if c.action = .establish then none else some false := by
  cases h : c.action <;> simp [verdict, baselineMissing, established, h]

end CheckResult

/-- A result in a form that can be written, its images as files in base64. -/
structure Report where
  checkId : String
  baselineName : String
  action : Action
  baselineFound : Bool
  diffPercentage : Float
  passed : Option Bool
  verdict : Option Bool
  failure : Option String
  changedRegion : Option Rect
  checkedAt : Instant
  checkpointPng : String
  diffPng : Option String
  baselinePng : Option String

/-- An image as a file in base64. -/
def encodeImage (codec : ImageCodec) (img : Image) : Except CheckFault String :=
  match codec.encode img with
  | .ok bytes => .ok (String.ofList (Base64.encode bytes))
  | .error fault => .error (.value (.codec fault))

/-- An optional image as a file in base64. -/
def encodeImage? (codec : ImageCodec) : Option Image → Except CheckFault (Option String)
  | some img => (encodeImage codec img).map some
  | none => .ok none

/-- The report of a result; an image without pixels has no file, and the result no report. -/
def CheckResult.toReport (codec : ImageCodec) (r : CheckResult) : Except CheckFault Report := do
  let checkpointPng ← encodeImage codec r.checkpoint
  let diffPng ← encodeImage? codec r.diff
  let baselinePng ← encodeImage? codec r.baseline
  return {
    checkId := r.checkId.text
    baselineName := r.baselineName.text
    action := r.action
    baselineFound := r.baselineFound
    diffPercentage := r.diffPercentage
    passed := r.passed
    verdict := r.verdict
    failure := r.failure
    changedRegion := r.changedRegion
    checkedAt := r.checkedAt
    checkpointPng
    diffPng
    baselinePng }

end VisualRegression
