import VisualRegression.Check.Step

/-!
# Requests to run a check

What one run is asked for: a baseline name, image files, and what to do with them. A request gives
the policy, the configuration and the parameters of the step that the run takes.
-/

namespace VisualRegression

/-- What a run is asked for. Its paths are texts; those of bytes that are no UTF-8 are left out. -/
structure RunRequest where
  /-- The name of the baseline. -/
  baseline : String
  /-- The image files, from the top of the page to its bottom. -/
  images : List String
  /-- The areas to ignore. -/
  areas : List Rect := []
  /-- The percentage that counts for the action. -/
  percentage : Option UInt8 := none
  ratio : Option Float := none
  headerCut : Option UInt32 := none
  footerCut : Option UInt32 := none
  strategy : Option String := none
  /-- The directory of the baseline files, where it is not that of the policy. -/
  baselineDir : Option String := none
  /-- The file for the painted differences. -/
  diffOut : Option String := none
  /-- The file for the report. -/
  reportOut : Option String := none
deriving Inhabited

namespace RunRequest

/-- The policy of the run. -/
def policy (r : RunRequest) (p : Policy) : Policy :=
  { p with baselineDir := r.baselineDir.getD p.baselineDir }

/-- The page of the run, named for the first image. -/
def context (r : RunRequest) : Option SearchContext := r.images.head?.map SearchContext.mk

/-- The configuration of the run. -/
def configuration (r : RunRequest) : CaptureConfiguration where
  ratio := r.ratio
  headerCut := r.headerCut
  footerCut := r.footerCut
  strategy := r.strategy
  areaIgnores := OrderedSet.ofList (r.areas.map Locator.area)

/-- The parameters of the step: the percentage is what has to differ for an action that expects a
difference, and what may differ for any other. -/
def parameters (r : RunRequest) (action : Action) : StepParameters :=
  if action.requiresInequality then { required := r.percentage } else { acceptable := r.percentage }

end RunRequest

end VisualRegression
