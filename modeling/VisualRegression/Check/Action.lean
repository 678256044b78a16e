import VisualRegression.Text.Blank

/-!
# Actions

What a check does: it keeps a baseline, or compares with it, expecting the same or something else.
Main statement: `verdict_eq` gives the verdict as the exclusive or of sameness and the expectation
of a difference.
-/

namespace VisualRegression

/-- What a check does with the image that it takes. -/
inductive Action where
  /-- Keeps it as the baseline. -/
  | establish
  /-- Expects it to look like the baseline. -/
  | compare
  /-- Expects it to look different from the baseline. -/
  | checkInequality
deriving DecidableEq, Inhabited, Repr

namespace Action

/-- All actions. -/
def all : List Action := [establish, compare, checkInequality]

/-- The name of the action. -/
def name : Action → String
  | establish => "ESTABLISH"
  | compare => "COMPARE_AGAINST"
  | checkInequality => "CHECK_INEQUALITY_AGAINST"

/-- The action with a name. -/
def ofName? (s : String) : Option Action := all.find? (fun a => a.name == s)

/-- A text in the spelling of action names: without blanks around it, in capital letters, with
underscores for hyphens. -/
def normalize (s : String) : String :=
  String.ofList ((Text.trim s.toList).map fun c => if c = '-' then '_' else c.toUpper)

/-- A difference is what the check expects. -/
def requiresInequality : Action → Bool
  | checkInequality => true
  | _ => false

/-- Whether the check passes, given whether the images look the same. Keeping a baseline is neither
passed nor failed. -/
def verdict (a : Action) (same : Bool) : Option Bool :=
  match a with
  | establish => none
  | _ => some (same ^^ a.requiresInequality)

theorem ofName?_name (a : Action) : ofName? a.name = some a := by cases a <;> rfl

theorem verdict_eq {a : Action} (h : a ≠ establish) (same : Bool) :
    a.verdict same = some (same ^^ a.requiresInequality) := by
  cases a
  · exact absurd rfl h
  · rfl
  · rfl

end Action

end VisualRegression
