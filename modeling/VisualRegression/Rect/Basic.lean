/-!
# Rectangles

A rectangle of pixels with a signed origin, its moves and its intersection with an image that
starts at the origin. Main statements: `toInt_saturate` says what the bounded addition of
`translate` yields, and rectangles are ordered by row, column, width and height, an order that
tells all rectangles apart.
-/

namespace VisualRegression

/-- The 32-bit integer nearest to `n`. -/
def saturate (n : Int) : Int32 := Int32.ofInt (max (-2147483648) (min 2147483647 n))

theorem toInt_saturate (n : Int) : (saturate n).toInt = max (-2147483648) (min 2147483647 n) := by
  rw [saturate, Int32.toInt_ofInt_of_le] <;> omega

/-- A rectangle: the position of its upper left pixel, its width and its height. -/
structure Rect where
  x : Int32
  y : Int32
  width : UInt32
  height : UInt32
deriving DecidableEq, Inhabited, Repr

namespace Rect

/-- Rectangles given by the same numbers are the same. -/
theorem ext_values {a b : Rect} (hx : a.x.toInt = b.x.toInt) (hy : a.y.toInt = b.y.toInt)
    (hwidth : a.width.toNat = b.width.toNat) (hheight : a.height.toNat = b.height.toNat) :
    a = b := by
  cases a
  cases b
  rw [mk.injEq]
  exact ⟨Int32.toInt_inj.1 hx, Int32.toInt_inj.1 hy, UInt32.toNat_inj.1 hwidth,
    UInt32.toNat_inj.1 hheight⟩

/-- The number of pixels in the rectangle. -/
def area (r : Rect) : Nat := r.width.toNat * r.height.toNat

/-- The rectangle has no pixel. -/
def isEmpty (r : Rect) : Bool := r.width == 0 || r.height == 0

/-- The column just right of the rectangle. -/
def right (r : Rect) : Int := r.x.toInt + r.width.toNat

/-- The row just below the rectangle. -/
def bottom (r : Rect) : Int := r.y.toInt + r.height.toNat

/-- The pixel in column `px` and row `py` lies in the rectangle. -/
def Contains (r : Rect) (px py : Int) : Prop :=
  r.x.toInt ≤ px ∧ px < r.right ∧ r.y.toInt ≤ py ∧ py < r.bottom

instance (r : Rect) (px py : Int) : Decidable (r.Contains px py) := by
  unfold Contains; infer_instance

/-- The rectangle moved by `dx` columns and `dy` rows; an origin that would leave the range of
32-bit integers stops at its end. -/
def translate (r : Rect) (dx dy : Int32) : Rect :=
  { r with x := saturate (r.x.toInt + dx.toInt), y := saturate (r.y.toInt + dy.toInt) }

/-- The part of the rectangle inside an image of the given size, if there is one. -/
def clip? (r : Rect) (width height : UInt32) : Option Rect :=
  let left := max r.x.toInt 0
  let top := max r.y.toInt 0
  let right := min r.right width.toNat
  let bottom := min r.bottom height.toNat
  if right ≤ left ∨ bottom ≤ top then none
  else some
    { x := Int32.ofInt left
      y := Int32.ofInt top
      width := UInt32.ofNat (right - left).toNat
      height := UInt32.ofNat (bottom - top).toNat }

/-- Rows first, then columns, widths and heights. -/
def order : Rect → Rect → Ordering :=
  compareLex (compareOn Rect.y)
    (compareLex (compareOn Rect.x) (compareLex (compareOn Rect.width) (compareOn Rect.height)))

instance : Ord Rect := ⟨order⟩

instance : Std.TransOrd Rect :=
  inferInstanceAs (Std.TransCmp (compareLex (compareOn Rect.y)
    (compareLex (compareOn Rect.x) (compareLex (compareOn Rect.width) (compareOn Rect.height)))))

theorem eq_of_order_eq {a b : Rect} (h : order a b = .eq) : a = b := by
  simp only [order, compareLex, compareOn, Ordering.then_eq_eq, Std.compare_eq_iff_eq] at h
  cases a; cases b; simp_all

instance : Std.LawfulEqOrd Rect where
  compare_self {a} := by
    change order a a = .eq
    simp [order, compareLex, compareOn]
  eq_of_compare := eq_of_order_eq

end Rect

end VisualRegression
