import VisualRegression.Check.Locator
import VisualRegression.Mask
import VisualRegression.Wire.Rect

/-!
# Locators in JSON

A locator is an object with its form as `type` and what it holds as `value`. A set of locators is an
array in the order of locators. Main statement: `Locator.ofJson?_toJson` says that a written locator
is read back.
-/

namespace VisualRegression

namespace Locator

/-- The forms of locators. -/
inductive Form where
  | css
  | xpath
  | area
deriving DecidableEq, Repr

/-- The form with a name. -/
def Form.ofName? (s : String) : Option Form :=
  if s = "css" then some .css
  else if s = "xpath" then some .xpath
  else if s = "area" then some .area
  else none

/-- The locator as an object. -/
def toJson : Locator → Json
  | css s => .object [("type", .string "css"), ("value", .string s)]
  | xpath s => .object [("type", .string "xpath"), ("value", .string s)]
  | area r => .object [("type", .string "area"), ("value", r.toJson)]

/-- Reads what a locator of a form holds. -/
def ofContent? : Form → Json → Option Locator
  | .css, j => j.toString?.map css
  | .xpath, j => j.toString?.map xpath
  | .area, j => (Rect.ofJson? j).map area

/-- Reads a locator. -/
def ofJson? (j : Json) : Option Locator := do
  match ← j.fields? ["type", "value"] false with
  | [form, value] =>
    let form ← Json.required? (Json.toChoice? Form.ofName?) form
    Json.required? (ofContent? form) value
  | _ => none

/-- A written locator is read back. -/
theorem ofJson?_toJson (l : Locator) : ofJson? l.toJson = some l := by
  cases l <;>
    simp [ofJson?, toJson, Json.fields?, Json.lookup, Json.required?, Json.toChoice?,
      Form.ofName?, ofContent?, Json.toString?, Rect.ofJson?_toJson]

/-- A set of locators as an array. -/
def setToJson (s : OrderedSet Locator) : Json := .ofList toJson s.toList

/-- Reads a set of locators. -/
def setOfJson? (j : Json) : Option (OrderedSet Locator) := j.toSet? ofJson?

end Locator

/-- Sets of locators by kind as an object. -/
def LocatorMap.toJson (m : LocatorMap) : Json := PerKind.toJson Locator.setToJson m

/-- Reads sets of locators by kind. -/
def LocatorMap.ofJson? (j : Json) : Option LocatorMap := PerKind.ofJson? Locator.setOfJson? j

/-- Sets of rectangles by kind as an object. -/
def IgnoreMap.toJson (m : IgnoreMap) : Json :=
  PerKind.toJson (fun s => .ofList Rect.toJson s.toList) m

/-- Reads sets of rectangles by kind. -/
def IgnoreMap.ofJson? (j : Json) : Option IgnoreMap :=
  PerKind.ofJson? (fun j => j.toSet? Rect.ofJson?) j

end VisualRegression
