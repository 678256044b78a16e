import VisualRegression.IgnoreKind
import VisualRegression.Json.Decode
import VisualRegression.Rect.Basic

/-!
# Rectangles and kinds in JSON

A rectangle is an object with its origin and its size. What is kept for each kind of ignored
region is an object with a member for each kind that has an entry. Main statement:
`Rect.ofJson?_toJson` says that a written rectangle is read back.
-/

namespace VisualRegression

namespace Rect

/-- The rectangle as an object. -/
def toJson (r : Rect) : Json :=
  .object [("x", .int r.x.toInt), ("y", .int r.y.toInt), ("width", .ofNat r.width.toNat),
    ("height", .ofNat r.height.toNat)]

/-- Reads a rectangle. -/
def ofJson? (j : Json) : Option Rect := do
  match ← j.fields? ["x", "y", "width", "height"] false with
  | [x, y, width, height] =>
    return {
      x := ← Json.required? Json.toInt32? x
      y := ← Json.required? Json.toInt32? y
      width := ← Json.required? Json.toUInt32? width
      height := ← Json.required? Json.toUInt32? height }
  | _ => none

theorem toInt32?_int (n : Int32) : Json.toInt32? (.int n.toInt) = some n := by
  have h₁ := n.le_toInt
  have h₂ := n.toInt_lt
  simp only [Json.toInt32?, Json.toInt?]
  rw [if_pos (by omega)]
  simp

theorem toUInt32?_ofNat (n : UInt32) : Json.toUInt32? (.ofNat n.toNat) = some n := by
  have := n.toNat_lt
  simp only [Json.toUInt32?, Json.toInt?, Json.ofNat]
  rw [if_pos (by omega)]
  simp

/-- A written rectangle is read back. -/
theorem ofJson?_toJson (r : Rect) : ofJson? r.toJson = some r := by
  cases r
  simp [ofJson?, toJson, Json.fields?, Json.lookup, Json.required?, toInt32?_int,
    toUInt32?_ofNat]

end Rect

namespace IgnoreKind

/-- The name of the kind. -/
def toJson (k : IgnoreKind) : Json := .string k.name

/-- Reads a kind. -/
def ofJson? (j : Json) : Option IgnoreKind := j.toChoice? ofName?

end IgnoreKind

namespace PerKind

variable {α : Type}

/-- An object with a member for each entry. -/
def toJson (encode : α → Json) (p : PerKind α) : Json :=
  .object (p.toList.map fun e => (e.1.name, encode e.2))

/-- Reads entries one after the other; of two for one kind the later counts. -/
def ofMembers? (decode : Json → Option α) :
    PerKind α → List (String × Json) → Option (PerKind α)
  | p, [] => some p
  | p, (name, j) :: rest => do
    let k ← IgnoreKind.ofName? name
    let a ← decode j
    ofMembers? decode (p.set k (some a)) rest

/-- Reads an object whose members are entries. -/
def ofJson? (decode : Json → Option α) : Json → Option (PerKind α)
  | .object members => ofMembers? decode ∅ members
  | _ => none

end PerKind

end VisualRegression
