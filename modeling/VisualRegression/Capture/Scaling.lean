import VisualRegression.Policy

/-!
# Scaling to logical pixels

A tile captured with several physical pixels for each logical one is sampled down (or up) to one
pixel each. Main statement: `sample_lt` says that every position sampled is one of the tile.
-/

namespace VisualRegression

/-- A number that is not negative, without its fraction. From 2^53 on, numbers have none, and what
is infinite or not a number stays as it is. (`Float.floor` is the same, and cannot be unfolded.) -/
def wholePart (x : Float) : Float :=
  if x < 9007199254740992 then x.toUInt64.toFloat else x

/-- A change of scale by a valid ratio. -/
structure Scaling where
  ratio : Float
  valid : isValidRatio ratio = true

namespace Scaling

/-- The scaling by a ratio, if that is a positive number. -/
def ofRatio (ratio : Float) : Except CaptureFault Scaling :=
  if h : isValidRatio ratio = true then .ok ⟨ratio, h⟩
  else .error (.setting (.ratioNotPositive ratio))

/-- The number of logical pixels that so many physical pixels make up, if it fits 32 bits. -/
def logical? (s : Scaling) (physical : UInt32) : Option UInt32 :=
  let logical := wholePart (physical.toFloat / s.ratio)
  if logical.isFinite && logical ≤ UInt32.toFloat 0xFFFFFFFF then some logical.toUInt32 else none

/-- The logical size of a tile, if it is within the limit. -/
def logicalSize (s : Scaling) (width height : UInt32) : Except CaptureFault (UInt32 × UInt32) :=
  let tooFine := .error (.setting (.ratioTooFine s.ratio width height))
  match s.logical? width, s.logical? height with
  | some w, some h =>
    if w.toNat * h.toNat ≤ SettingFault.maxScaledPixels then .ok (w, h) else tooFine
  | _, _ => tooFine

/-- The physical position sampled for a logical one, among `limit` positions. -/
def sample (s : Scaling) (limit logical : Nat) : Nat :=
  min (wholePart (Float.ofNat logical * s.ratio)).toUInt32.toNat (limit - 1)

theorem sample_lt (s : Scaling) {limit : Nat} (logical : Nat) (h : 0 < limit) :
    s.sample limit logical < limit := by
  have : s.sample limit logical ≤ limit - 1 := Nat.min_le_right _ _
  omega

/-- A logical size filled with samples of a tile that has pixels. -/
def resample (s : Scaling) (tile : Image) (width height : UInt32)
    (hw : 0 < tile.width.toNat) (hh : 0 < tile.height.toNat) : Image :=
  Image.ofFn width height fun x y =>
    tile.get (s.sample tile.width.toNat x) (s.sample tile.height.toNat y)
      (s.sample_lt x hw) (s.sample_lt y hh)

theorem pos_of_not_isEmpty {tile : Image} (h : ¬ tile.isEmpty = true) :
    0 < tile.width.toNat ∧ 0 < tile.height.toNat := by
  simp only [Image.isEmpty, Image.pixelCount, beq_iff_eq, Nat.mul_eq_zero, not_or] at h
  omega

/-- The tile in logical pixels; a ratio of one and a tile without pixels change nothing. -/
def apply (s : Scaling) (tile : Image) : Except CaptureFault Image :=
  if s.ratio == 1 then .ok tile
  else if h : tile.isEmpty = true then .ok tile
  else do
    let (width, height) ← s.logicalSize tile.width tile.height
    return s.resample tile width height (pos_of_not_isEmpty h).1 (pos_of_not_isEmpty h).2

end Scaling

end VisualRegression
