import VisualRegression.Rect.Basic
import VisualRegression.Text.Blank
import VisualRegression.Text.Fields
import VisualRegression.Text.Numeral

/-!
# Rectangles as text

A rectangle is written `x,y,width,height`. Reading allows blanks around each number and a plus sign
before it, and refuses an origin left of or above the image.
-/

namespace VisualRegression

/-- Why a text is no rectangle. -/
inductive RectFault where
  /-- The text does not have four fields. -/
  | fieldCount (text : String)
  /-- A field is no 32-bit number. -/
  | field (text : String) (fault : NumeralFault)
  /-- A coordinate of the origin needs the bit that the sign takes. -/
  | originTooLarge
deriving DecidableEq, Repr

namespace RectFault

/-- The fault in words. -/
def message : RectFault → String
  | fieldCount text => s!"expected x,y,width,height but got '{text}'"
  | field text fault => "'" ++ text ++ "': " ++ fault.message
  | originTooLarge => NumeralFault.tooLarge.message

end RectFault

namespace Rect

/-- Reads one number of a rectangle. -/
def readField (s : List Char) : Except RectFault Nat :=
  (Numeral.read UInt32.size s).mapError (.field (String.ofList s))

/-- Reads one coordinate of the origin. -/
def readOrigin (s : List Char) : Except RectFault Nat := do
  let n ← readField s
  if n ≤ Int32.maxValue.toInt then .ok n else .error .originTooLarge

/-- Reads a rectangle; the leftmost fault is the one reported. -/
def read (text : String) : Except RectFault Rect :=
  match (Text.fields ',' text.toList).map Text.trim with
  | [x, y, width, height] => do
    let x ← readOrigin x
    let y ← readOrigin y
    let width ← readField width
    let height ← readField height
    return ⟨Int32.ofNat x, Int32.ofNat y, UInt32.ofNat width, UInt32.ofNat height⟩
  | _ => .error (.fieldCount text)

/-- Writes a rectangle. -/
def text (r : Rect) : String :=
  s!"{r.x.toInt},{r.y.toInt},{r.width.toNat},{r.height.toNat}"

end Rect

end VisualRegression
