import VisualRegression.Check.Result
import VisualRegression.Wire.Rect

/-!
# Reports in JSON

A report as an object, and the names that it refers to.
-/

namespace VisualRegression

namespace Action

/-- The name of the action. -/
def toJson (a : Action) : Json := .string a.name

/-- Reads an action. -/
def ofJson? (j : Json) : Option Action := j.toChoice? ofName?

end Action

namespace SearchContext

/-- The context as an object. -/
def toJson (c : SearchContext) : Json := .object [("id", .string c.id)]

/-- Reads a context. -/
def ofJson? (j : Json) : Option SearchContext := do
  match ← j.fields? ["id"] false with
  | [id] => return ⟨← Json.required? Json.toString? id⟩
  | _ => none

end SearchContext

/-- Reads a baseline name as it stands. -/
def BaselineKey.ofJson? (j : Json) : Option BaselineKey := j.toString?.map BaselineKey.mk

/-- Reads the identity of a check. -/
def CheckId.ofJson? (j : Json) : Option CheckId := j.toString?.map CheckId.mk

namespace Report

/-- The names of the fields, in order. -/
def fieldNames : List String :=
  ["check_id", "baseline_name", "action", "baseline_found", "diff_percentage", "passed", "verdict",
    "failure", "changed_region", "checked_at", "checkpoint_png", "diff_png", "baseline_png"]

/-- The report as an object. -/
def toJson (r : Report) : Json :=
  .object [("check_id", .string r.checkId), ("baseline_name", .string r.baselineName),
    ("action", r.action.toJson), ("baseline_found", .bool r.baselineFound),
    ("diff_percentage", .ofFloat r.diffPercentage), ("passed", .ofOption .bool r.passed),
    ("verdict", .ofOption .bool r.verdict), ("failure", .ofOption .string r.failure),
    ("changed_region", .ofOption Rect.toJson r.changedRegion),
    ("checked_at", .string r.checkedAt.text), ("checkpoint_png", .string r.checkpointPng),
    ("diff_png", .ofOption .string r.diffPng), ("baseline_png", .ofOption .string r.baselinePng)]

/-- Reads a report. -/
def ofJson? (j : Json) : Option Report := do
  match ← j.fields? fieldNames false with
  | [checkId, baselineName, action, baselineFound, diffPercentage, passed, verdict, failure,
      changedRegion, checkedAt, checkpointPng, diffPng, baselinePng] =>
    return {
      checkId := ← Json.required? Json.toString? checkId
      baselineName := ← Json.required? Json.toString? baselineName
      action := ← Json.required? Action.ofJson? action
      baselineFound := ← Json.required? Json.toBool? baselineFound
      diffPercentage := ← Json.required? Json.toFloat? diffPercentage
      passed := ← Json.optional? Json.toBool? passed
      verdict := ← Json.optional? Json.toBool? verdict
      failure := ← Json.optional? Json.toString? failure
      changedRegion := ← Json.optional? Rect.ofJson? changedRegion
      checkedAt := ← Json.required? (fun j => j.toString?.bind Instant.read?) checkedAt
      checkpointPng := ← Json.required? Json.toString? checkpointPng
      diffPng := ← Json.optional? Json.toString? diffPng
      baselinePng := ← Json.optional? Json.toString? baselinePng }
  | _ => none

end Report

end VisualRegression
