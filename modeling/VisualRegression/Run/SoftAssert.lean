import VisualRegression.Check.Step

/-!
# Soft assertions

Assertions that are noted and do not stop a test. Main statement: `allPassed_note` says when all of
them still hold after one more event.
-/

namespace VisualRegression

/-- The assertions that failed so far, the first one first. -/
structure SoftAssert where
  failures : List String := []
deriving DecidableEq, Inhabited, Repr

namespace SoftAssert

/-- Notes a failure. -/
def fail (a : SoftAssert) (message : String) : SoftAssert := ⟨a.failures ++ [message]⟩

/-- Asserts a condition. -/
def check (a : SoftAssert) (description : String) (condition : Bool) : SoftAssert :=
  if condition then a else a.fail description

/-- No assertion failed. -/
def allPassed (a : SoftAssert) : Bool := a.failures.isEmpty

/-- Notes what a step lets others see. -/
def note (a : SoftAssert) : StepEvent → SoftAssert
  | .published _ => a
  | .asserted description condition => a.check description condition
  | .failed message => a.fail message

/-- The event is a failure. -/
def isFailure : StepEvent → Bool
  | .published _ => false
  | .asserted _ condition => !condition
  | .failed _ => true

/-- All assertions hold after an event if they did before and the event is no failure. -/
theorem allPassed_note (a : SoftAssert) (e : StepEvent) :
    (a.note e).allPassed = (a.allPassed && !isFailure e) := by
  cases e with
  | published r => simp [note, isFailure]
  | asserted d c => cases c <;> simp [note, check, fail, allPassed, isFailure]
  | failed m => simp [note, fail, allPassed, isFailure]

end SoftAssert

end VisualRegression
