import VisualRegression.IgnoreKind
import VisualRegression.Ordered.Set
import VisualRegression.Rect.Text
import VisualRegression.Text.Quoted

/-!
# Locators

How the regions to ignore are given: by a selector of elements or by their place. Locators are
ordered by their form and then by what they hold, an order that tells all locators apart.
-/

namespace VisualRegression

/-- The page, or part of one, that a check looks at. -/
structure SearchContext where
  id : String
deriving DecidableEq, Inhabited, Repr

/-- What to ignore. -/
inductive Locator where
  | css (selector : String)
  | xpath (selector : String)
  | area (rect : Rect)
deriving DecidableEq, Inhabited, Repr

namespace Locator

/-- The place of a locator's form in the order of the forms. -/
def rank : Locator → Nat
  | css _ => 0
  | xpath _ => 1
  | area _ => 2

/-- The selector, if the locator holds one. -/
def selector : Locator → String
  | css s => s
  | xpath s => s
  | area _ => ""

/-- The rectangle, if the locator holds one. -/
def rect : Locator → Rect
  | area r => r
  | _ => default

/-- Forms first, then selectors and rectangles. -/
def order : Locator → Locator → Ordering :=
  compareLex (compareOn rank) (compareLex (compareOn selector) (compareOn rect))

instance : Ord Locator := ⟨order⟩

instance : Std.TransOrd Locator :=
  inferInstanceAs (Std.TransCmp
    (compareLex (compareOn rank) (compareLex (compareOn selector) (compareOn rect))))

instance : Std.LawfulEqOrd Locator where
  compare_self {a} := by
    change order a a = .eq
    simp [order, compareLex, compareOn, Std.ReflCmp.compare_self]
  eq_of_compare {a b} h := by
    change order a b = .eq at h
    simp only [order, compareLex, compareOn, Ordering.then_eq_eq, Std.compare_eq_iff_eq] at h
    obtain ⟨h₁, h₂, h₃⟩ := h
    cases a <;> cases b <;> simp_all [rank, selector, rect]

/-- The form of the locator and what it holds. -/
def describe : Locator → String
  | css s => "Css(" ++ Text.quoted s ++ ")"
  | xpath s => "Xpath(" ++ Text.quoted s ++ ")"
  | area r => "Area(" ++ r.text ++ ")"

end Locator

/-- The locators to ignore, for each kind. -/
abbrev LocatorMap := PerKind (OrderedSet Locator)

end VisualRegression
