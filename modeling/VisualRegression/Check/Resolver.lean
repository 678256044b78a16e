import VisualRegression.Check.Fault
import VisualRegression.Check.Locator
import VisualRegression.Check.Program
import VisualRegression.Store.Basic

/-!
# Parties made of parts

How locators are found where no element can be looked up, and the parties of a check made of a
capture, a resolver and a store.
-/

namespace VisualRegression

/-- The places of a locator without a page to look elements up in: only an area has a place. -/
def Locator.resolveAsArea : Locator → Except CheckFault (OrderedSet Rect)
  | .area r => .ok (OrderedSet.ofList [r])
  | locator =>
    .error (.collaborator "locator resolver"
      ("element lookup is unavailable for " ++ locator.describe))

/-- Parties that answer from the common state and change nothing in it, next to a store. -/
def Collaborators.ofStore {σ : Type}
    (capture : SearchContext → CapturePlan → σ → Except CheckFault (List Image))
    (resolve : SearchContext → Locator → Except CheckFault (OrderedSet Rect))
    (store : BaselineStore σ) : Collaborators σ where
  capture context plan s := (some (capture context plan s), s)
  resolve context locator s := (some (resolve context locator), s)
  present _ s := s
  load key s := (store.load key s, s)
  save := store.save

end VisualRegression
