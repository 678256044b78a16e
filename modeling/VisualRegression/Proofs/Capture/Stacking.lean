import Mathlib.Algebra.Order.Ring.Nat
import VisualRegression.Capture.Stitcher

/-!
# Images below each other

Which images can be put below each other, and what comes of it: `Image.Stackable` is the condition,
`Image.StackOf` the result, and `stackTiles_of_stackable` and `stackTiles_of_not_stackable` say that
the stitcher for whole pages keeps to them.
-/

namespace VisualRegression

namespace Image

variable {parts : List Image} {width : UInt32}

/-- Images can be put below each other: they have one width, and a height of 32 bits together. -/
structure Stackable (parts : List Image) : Prop where
  same_width : ∀ p ∈ parts, ∀ q ∈ parts, p.width = q.width
  height_le : (parts.map fun p => p.height.toNat).sum ≤ 2 ^ 32 - 1

/-- The image consists of the rows of others, in their order and with nothing between them. -/
structure StackOf (img : Image) (parts : List Image) : Prop where
  pixels_eq : img.pixels.toList = parts.flatMap fun p => p.pixels.toList
  width_eq : ∀ p ∈ parts, img.width = p.width
  /-- Of no image at all there are no columns. -/
  width_nil : parts = [] → img.width = 0
  height_eq : img.height.toNat = (parts.map fun p => p.height.toNat).sum

theorem totalHeight_eq_sum (parts : List Image) :
    totalHeight parts = (parts.map fun p => p.height.toNat).sum := by
  rw [totalHeight, List.sum_eq_foldr, List.foldr_map]

theorem height_stack (hw : ∀ p ∈ parts, p.width = width) (hh : totalHeight parts < UInt32.size) :
    (stack width parts hw hh).height.toNat = totalHeight parts :=
  UInt32.toNat_ofNat_of_lt' hh

end Image

namespace Stitcher

variable {parts tiles : List Image} {odd : Image}

/-- Images are refused for the first one that has not the width of the first. -/
theorem stackTiles_of_odd
    (h : parts.find? (fun p => p.width != (parts.head?.map Image.width).getD 0) = some odd) :
    stackTiles parts =
      .error (.stitch (.widthDiffers odd.width ((parts.head?.map Image.width).getD 0))) := by
  simp only [stackTiles]
  split
  · rename_i odd' hodd
    cases hodd.symm.trans h
    rfl
  · rename_i hnone
    cases hnone.symm.trans h

/-- Of images of one width the height decides. -/
theorem stackTiles_of_even
    (h : parts.find? (fun p => p.width != (parts.head?.map Image.width).getD 0) = none) :
    stackTiles parts =
      if hh : Image.totalHeight parts < UInt32.size then
        .ok (Image.stack _ parts (width_eq_of_find? h) hh)
      else .error (.stitch (.tooHigh (Image.totalHeight parts))) := by
  simp only [stackTiles]
  split
  · rename_i odd hodd
    cases hodd.symm.trans h
  · rfl

/-- The width that counts is the first one. -/
theorem stackTiles_eq_ok {img : Image} (h : stackTiles parts = .ok img) :
    (∀ p ∈ parts, p.width = (parts.head?.map Image.width).getD 0) ∧
      Image.totalHeight parts < UInt32.size ∧
      img.width = (parts.head?.map Image.width).getD 0 ∧
      img.height.toNat = Image.totalHeight parts ∧
      img.pixels.toList = parts.flatMap fun p => p.pixels.toList := by
  cases hodd : parts.find? fun p => p.width != (parts.head?.map Image.width).getD 0 with
  | some odd => cases (stackTiles_of_odd hodd).symm.trans h
  | none =>
    have hwidths := width_eq_of_find? hodd
    rw [stackTiles_of_even hodd] at h
    split at h
    · rename_i hhigh
      cases h
      exact ⟨hwidths, hhigh, rfl, Image.height_stack hwidths hhigh,
        Image.pixels_stack _ parts hwidths hhigh⟩
    · cases h

/-- **Images that can be put below each other are.** -/
theorem stackTiles_of_stackable (h : Image.Stackable parts) :
    ∃ img, stackTiles parts = .ok img ∧ img.StackOf parts := by
  have hwidths : ∀ p ∈ parts, p.width = (parts.head?.map Image.width).getD 0 := by
    intro p hp
    cases parts with
    | nil => cases hp
    | cons first rest => exact h.same_width p hp first List.mem_cons_self
  have hfind : parts.find? (fun p => p.width != (parts.head?.map Image.width).getD 0) = none :=
    List.find?_eq_none.2 fun p hp => by simpa using hwidths p hp
  have hhigh : Image.totalHeight parts < UInt32.size := by
    have := h.height_le
    rw [Image.totalHeight_eq_sum]
    simp only [UInt32.size]
    omega
  obtain ⟨img, himg⟩ : ∃ img, stackTiles parts = .ok img :=
    ⟨_, (stackTiles_of_even hfind).trans (dif_pos hhigh)⟩
  obtain ⟨-, -, hwidth, hheight, hpixels⟩ := stackTiles_eq_ok himg
  refine ⟨img, himg, hpixels, fun p hp => hwidth.trans (hwidths p hp).symm, ?_,
    hheight.trans (Image.totalHeight_eq_sum parts)⟩
  rintro rfl
  exact hwidth

/-- **Other images are refused**, because of a width or of the height. -/
theorem stackTiles_of_not_stackable (h : ¬ Image.Stackable parts) :
    ∃ cause, stackTiles parts = .error (.stitch cause) := by
  rcases hs : stackTiles parts with fault | img
  · cases hodd : parts.find? fun p => p.width != (parts.head?.map Image.width).getD 0 with
    | some odd =>
      cases (stackTiles_of_odd hodd).symm.trans hs
      exact ⟨_, rfl⟩
    | none =>
      rw [stackTiles_of_even hodd] at hs
      split at hs
      · cases hs
      · cases hs
        exact ⟨_, rfl⟩
  · obtain ⟨hwidths, hhigh, -⟩ := stackTiles_eq_ok hs
    refine absurd ⟨fun p hp q hq => (hwidths p hp).trans (hwidths q hq).symm, ?_⟩ h
    rw [← Image.totalHeight_eq_sum]
    simp only [UInt32.size] at hhigh
    omega

/-- Of two or more tiles, those that have pixels are put below each other. -/
theorem allTiles_of_two_le (h : 2 ≤ tiles.length) :
    allTiles tiles = stackTiles (tiles.filter fun t => !t.isEmpty) := by
  match tiles, h with
  | _ :: _ :: _, _ => rfl

end Stitcher

end VisualRegression
