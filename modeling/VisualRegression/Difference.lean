import VisualRegression.Policy

/-!
# Differences between images

Two images of one size are compared pixel by pixel. Pixels differ if some channel differs by more
than a tolerance; the comparison passes if not more of them differ than a percentage of all allows.
Main statements: `exceeded_iff` frees the rounded trigger of its rounding, and `mem_differing` says
which positions differ.
-/

namespace VisualRegression

/-- How far two channels are apart. -/
def channelDistance (a b : UInt8) : Nat := (a.toNat - b.toNat) + (b.toNat - a.toNat)

/-- Some channel differs by more than the tolerance. -/
def Pixel.differs (tolerance : UInt8) (a b : Pixel) : Bool :=
  (a.channels.zip b.channels).any fun c => tolerance.toNat < channelDistance c.1 c.2

/-- How many pixels may differ. -/
structure Threshold where
  /-- The largest number of differing pixels that passes. -/
  trigger : Nat
deriving DecidableEq, Repr

namespace Threshold

/-- The threshold of a percentage of all pixels, rounded down. -/
def ofPercentage (width height : UInt32) (percentage : UInt8) : Except CaptureFault Threshold :=
  if percentage.toNat > 100 then .error (.setting (.percentageTooLarge percentage))
  else .ok ⟨height.toNat * width.toNat * percentage.toNat / 100⟩

/-- More pixels differ than may. -/
def exceeded (t : Threshold) (differing : Nat) : Bool := t.trigger < differing

/-- Rounding down the trigger does not matter: it is exceeded exactly if the percentage is. -/
theorem exceeded_iff {width height : UInt32} {percentage : UInt8} {t : Threshold}
    (h : ofPercentage width height percentage = .ok t) (d : Nat) :
    t.exceeded d = true ↔ percentage.toNat * (width.toNat * height.toNat) < 100 * d := by
  simp only [ofPercentage] at h
  split at h
  · cases h
  · cases h
    have : height.toNat * width.toNat * percentage.toNat =
        percentage.toNat * (width.toNat * height.toNat) := by
      rw [Nat.mul_comm, Nat.mul_comm height.toNat]
    simp only [exceeded, decide_eq_true_eq, this]
    omega

end Threshold

/-- All positions of an image, row by row. -/
def Image.positions (img : Image) : List (Nat × Nat) :=
  (List.range img.height.toNat).flatMap fun y => (List.range img.width.toNat).map fun x => (x, y)

theorem Image.mem_positions {img : Image} {x y : Nat} :
    (x, y) ∈ img.positions ↔ x < img.width.toNat ∧ y < img.height.toNat := by
  simp only [positions, List.mem_flatMap, List.mem_range, List.mem_map, Prod.mk.injEq]
  constructor
  · rintro ⟨y', hy, x', hx, rfl, rfl⟩; exact ⟨hx, hy⟩
  · rintro ⟨hx, hy⟩; exact ⟨y, hy, x, hx, rfl, rfl⟩

/-- The smallest box around positions: its first and last columns and rows. -/
structure Box where
  left : Nat
  top : Nat
  right : Nat
  bottom : Nat
deriving DecidableEq, Repr

namespace Box

/-- The box around one position. -/
def single (p : Nat × Nat) : Box := ⟨p.1, p.2, p.1, p.2⟩

/-- The box stretched to hold a position. -/
def extend (b : Box) (p : Nat × Nat) : Box :=
  ⟨min b.left p.1, min b.top p.2, max b.right p.1, max b.bottom p.2⟩

/-- The smallest box around positions, if there are any. -/
def around : List (Nat × Nat) → Option Box
  | [] => none
  | p :: rest => some (rest.foldl extend (single p))

/-- The box as a rectangle. -/
def toRect (b : Box) : Rect :=
  ⟨Int32.ofNat b.left, Int32.ofNat b.top, UInt32.ofNat (b.right - b.left + 1),
    UInt32.ofNat (b.bottom - b.top + 1)⟩

end Box

/-- What a comparison found. -/
structure Difference where
  /-- The number of differing pixels. -/
  differing : Nat
  /-- Their share of all pixels, in percent. -/
  percentage : Float
  /-- The largest number of differing pixels that passes. -/
  trigger : Nat
  /-- Not more pixels differ than may. -/
  passed : Bool
  /-- The candidate with the differing pixels painted over. -/
  markup : Image
  /-- The smallest rectangle around the differing pixels. -/
  changedRegion : Option Rect

/-- How images are compared. -/
structure Comparer where
  tolerance : UInt8 := 0
  color : Rgb := defaultDiffColor
deriving Inhabited

namespace Comparer

/-- The images differ at a position that both have. -/
def differsAt (c : Comparer) (candidate baseline : Image) (p : Nat × Nat) : Bool :=
  match candidate.get? p.1 p.2, baseline.get? p.1 p.2 with
  | some a, some b => a.differs c.tolerance b
  | _, _ => false

/-- The positions at which the images differ, row by row. -/
def differing (c : Comparer) (candidate baseline : Image) : List (Nat × Nat) :=
  candidate.positions.filter (c.differsAt candidate baseline)

/-- A position differs exactly if both images have a pixel there and the pixels differ. -/
theorem mem_differing {c : Comparer} {candidate baseline : Image} {p : Nat × Nat} :
    p ∈ c.differing candidate baseline ↔ ∃ a b, candidate.get? p.1 p.2 = some a ∧
      baseline.get? p.1 p.2 = some b ∧ a.differs c.tolerance b = true := by
  obtain ⟨x, y⟩ := p
  simp only [differing, List.mem_filter, Image.mem_positions, differsAt]
  constructor
  · rintro ⟨_, h⟩
    split at h
    · exact ⟨_, _, by assumption, by assumption, h⟩
    · cases h
  · rintro ⟨a, b, ha, hb, h⟩
    refine ⟨?_, by simp [ha, hb, h]⟩
    simp only [Image.get?] at ha
    split at ha
    · assumption
    · cases ha

/-- The candidate with the differing pixels painted over. -/
def markup (c : Comparer) (candidate baseline : Image) : Image :=
  candidate.mapPixels fun x y p =>
    if c.differsAt candidate baseline (x, y) then c.color.toPixel else p

/-- The share of differing pixels in percent; there is none in an image without pixels. -/
def share (differing total : Nat) : Float :=
  if total = 0 then 0 else Float.ofNat differing * 100 / Float.ofNat total

/-- Compares a candidate with a baseline. A difference in size is reported before a threshold that
is no percentage. -/
def compare (c : Comparer) (candidate baseline : Image) (percentage : UInt8) :
    Except CaptureFault Difference :=
  if candidate.dimensions ≠ baseline.dimensions then
    .error (.sizeMismatch baseline.dimensions candidate.dimensions)
  else do
    let threshold ← Threshold.ofPercentage candidate.width candidate.height percentage
    let positions := c.differing candidate baseline
    return {
      differing := positions.length
      percentage := share positions.length candidate.pixelCount
      trigger := threshold.trigger
      passed := !threshold.exceeded positions.length
      markup := c.markup candidate baseline
      changedRegion := (Box.around positions).map Box.toRect }

end Comparer

end VisualRegression
