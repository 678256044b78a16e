import VisualRegression.Proofs.Mask.Filling
import VisualRegression.Proofs.Rect.Clip

/-!
# What masking covers

Each region to ignore is moved up with the image, with sums that stop at the ends of the 32-bit
range, cut down to the image and filled.  `Mask.Covers` says without any of this which pixels a
region covers, and `fills_apply` that masking fills exactly these, region after region and kind
after kind.  What the whole of it comes to is `masked_exactly`.
-/

namespace VisualRegression

/-- The number in the range of 32 bits with a sign that is nearest to another one. -/
def nearestInt32 (n : Int) : Int := max (-2147483648) (min 2147483647 n)

theorem toInt_saturate_eq (n : Int) : (saturate n).toInt = nearestInt32 n := toInt_saturate n

/-- The rectangle is a region to ignore for a reason of this kind. -/
def IgnoreMap.Lists (ignores : IgnoreMap) (k : IgnoreKind) (r : Rect) : Prop :=
  ∃ s, ignores.get? k = some s ∧ r ∈ s

/-- The rectangle is a region to ignore, of the one kind or of the other. -/
def IgnoreMap.Has (ignores : IgnoreMap) (r : Rect) : Prop := ∃ k, ignores.Lists k r

namespace Mask

section Covered

variable {color : Pixel} {topAdjustment : Int32} {ignores : IgnoreMap} {k : IgnoreKind} {r c : Rect}
  {img : Image} {x y : Nat}

/-- The row of a region's upper edge in an image that starts `topAdjustment` rows below the top of
the page. -/
def topOf (topAdjustment : Int32) (r : Rect) : Int :=
  nearestInt32 (r.y.toInt + nearestInt32 (-topAdjustment.toInt))

/-- **The region covers a pixel** of an image that starts `topAdjustment` rows below the top of the
page. -/
def Covers (topAdjustment : Int32) (r : Rect) (x y : Nat) : Prop :=
  r.x.toInt ≤ x ∧ x < r.x.toInt + r.width.toNat ∧
    topOf topAdjustment r ≤ y ∧ y < topOf topAdjustment r + r.height.toNat

instance (topAdjustment : Int32) (r : Rect) (x y : Nat) :
    Decidable (Covers topAdjustment r x y) := by
  unfold Covers; infer_instance

/-- Some region to ignore covers a pixel. -/
def Masked (ignores : IgnoreMap) (topAdjustment : Int32) (x y : Nat) : Prop :=
  ∃ r, ignores.Has r ∧ Covers topAdjustment r x y

/-! ## One region -/

/-- A region is moved to where it covers the image. -/
theorem contains_translate :
    (r.translate 0 (saturate (-topAdjustment.toInt))).Contains x y ↔
      Covers topAdjustment r x y := by
  -- a column is moved by nothing, and stays in its range
  have hx : (r.translate 0 (saturate (-topAdjustment.toInt))).x.toInt = r.x.toInt := by
    have hlo := r.x.le_toInt
    have hhi := r.x.toInt_lt
    simp only [Rect.translate, toInt_saturate, Int32.toInt_zero]
    omega
  have hy : (r.translate 0 (saturate (-topAdjustment.toInt))).y.toInt = topOf topAdjustment r := by
    simp only [Rect.translate, toInt_saturate_eq, topOf]
  simp only [Rect.Contains, Rect.right, Rect.bottom, hx, hy]
  exact Iff.rfl

/-- The visible part of a region is what it covers of the image. -/
theorem contains_visible? {width height : UInt32}
    (h : visible? width height topAdjustment r = some c) :
    c.Contains x y ↔ Covers topAdjustment r x y ∧ x < width.toNat ∧ y < height.toNat := by
  rw [← contains_translate]
  exact Rect.contains_clip? h

/-- A region without a visible part covers nothing of the image. -/
theorem not_covers_of_visible? {width height : UInt32}
    (h : visible? width height topAdjustment r = none) (hx : x < width.toNat)
    (hy : y < height.toNat) : ¬ Covers topAdjustment r x y := by
  rw [← contains_translate]
  exact Rect.not_contains_of_clip? h hx hy

/-- A region that is empty covers nothing. -/
theorem not_covers_of_isEmpty (h : r.isEmpty = true) : ¬ Covers topAdjustment r x y := by
  rintro ⟨hleft, hright, htop, hbottom⟩
  simp only [Rect.isEmpty, Bool.or_eq_true, beq_iff_eq] at h
  rcases h with hw | hh
  · rw [hw, UInt32.toNat_zero] at hright
    omega
  · rw [hh, UInt32.toNat_zero] at hbottom
    omega

/-- On an image that starts on the page or below its top, a region of the page covers exactly its
own pixels. -/
theorem covers_iff_contains (hadjust : 0 ≤ topAdjustment.toInt) (hr : 0 ≤ r.y.toInt) :
    Covers topAdjustment r x y ↔ r.Contains x (y + topAdjustment.toInt) := by
  have htop : topOf topAdjustment r = r.y.toInt - topAdjustment.toInt := by
    have hy := r.y.toInt_lt
    have ht := topAdjustment.toInt_lt
    simp only [topOf, nearestInt32]
    omega
  simp only [Covers, htop, Rect.Contains, Rect.right, Rect.bottom]
  omega

/-! ## Regions one after the other -/

/-- **To fill regions is to fill what they cover.** -/
theorem fills_fill (color : Pixel) (topAdjustment : Int32) (img : Image) (regions : List Rect) :
    Image.Fills color (fun x y => ∃ r ∈ regions, Covers topAdjustment r x y) img
      (fill color topAdjustment img regions) := by
  induction regions generalizing img with
  | nil => exact (Image.Fills.none color img).congr fun _ _ _ _ => by simp
  | cons r rest ih =>
    rw [fill, List.foldl_cons]
    rcases hv : visible? img.width img.height topAdjustment r with _ | c
    · refine (ih img).congr fun x y hx hy => ?_
      have hnot : ¬ Covers topAdjustment r x y := not_covers_of_visible? hv hx hy
      simp [hnot]
    · refine ((Image.fills_paint img c color).trans (ih _)).congr fun x y hx hy => ?_
      rw [contains_visible? hv]
      simp [hx, hy]

/-- The regions of a kind are those that it lists. -/
theorem mem_regions? :
    (∃ regions, regions? ignores k = some regions ∧ r ∈ regions) ↔ ignores.Lists k r := by
  unfold regions? IgnoreMap.Lists
  rcases ignores.get? k with _ | s
  · simp
  · by_cases hs : s.isEmpty = true
    · have hnil : s.toList = [] := List.isEmpty_iff.1 hs
      simp [hs, OrderedSet.mem_def, hnil]
    · simp [hs, OrderedSet.mem_def]

/-- One kind after the other fills what its regions cover. -/
theorem fills_step (color : Pixel) (ignores : IgnoreMap) (topAdjustment : Int32)
    (sofar : Image × List Snapshot) (k : IgnoreKind) :
    Image.Fills color (fun x y => ∃ r, ignores.Lists k r ∧ Covers topAdjustment r x y) sofar.1
      (step color ignores topAdjustment sofar k).1 := by
  simp only [← mem_regions?]
  unfold step
  rcases regions? ignores k with _ | regions
  · exact (Image.Fills.none color sofar.1).congr fun _ _ _ _ => by simp
  · exact (fills_fill color topAdjustment sofar.1 regions).congr fun _ _ _ _ => by simp

theorem fills_foldl_step (color : Pixel) (ignores : IgnoreMap) (topAdjustment : Int32)
    (kinds : List IgnoreKind) (sofar : Image × List Snapshot) :
    Image.Fills color
      (fun x y => ∃ k ∈ kinds, ∃ r, ignores.Lists k r ∧ Covers topAdjustment r x y) sofar.1
      (kinds.foldl (step color ignores topAdjustment) sofar).1 := by
  induction kinds generalizing sofar with
  | nil => exact (Image.Fills.none color sofar.1).congr fun _ _ _ _ => by simp
  | cons k rest ih =>
    refine ((fills_step color ignores topAdjustment sofar k).trans (ih _)).congr fun _ _ _ _ => ?_
    simp

/-- **Masking fills what the regions to ignore cover.** -/
theorem fills_apply (color : Pixel) (img : Image) (ignores : IgnoreMap) (topAdjustment : Int32) :
    Image.Fills color (Masked ignores topAdjustment) img
      (apply color img ignores topAdjustment).1 := by
  refine (fills_foldl_step color ignores topAdjustment IgnoreKind.ordered (img, [])).congr
    fun x y _ _ => ?_
  constructor
  · rintro ⟨k, -, r, hr, hc⟩
    exact ⟨r, ⟨k, hr⟩, hc⟩
  · rintro ⟨r, ⟨k, hr⟩, hc⟩
    exact ⟨k, IgnoreKind.mem_ordered k, r, hr, hc⟩

/-- Only regions that show in the image matter, whatever their kinds. -/
theorem apply_congr {ignores' : IgnoreMap}
    (h : ∀ r, r.isEmpty = false →
      (∃ x y, x < img.width.toNat ∧ y < img.height.toNat ∧ Covers topAdjustment r x y) →
      (ignores'.Has r ↔ ignores.Has r)) :
    (apply color img ignores' topAdjustment).1 = (apply color img ignores topAdjustment).1 := by
  refine (fills_apply color img ignores' topAdjustment).unique
    ((fills_apply color img ignores topAdjustment).congr fun x y hx hy => ?_)
  have hiff : ∀ r, Covers topAdjustment r x y → (ignores'.Has r ↔ ignores.Has r) := by
    intro r hc
    refine h r (Bool.eq_false_iff.2 fun he => not_covers_of_isEmpty he hc) ⟨x, y, hx, hy, hc⟩
  constructor
  · rintro ⟨r, hr, hc⟩
    exact ⟨r, (hiff r hc).2 hr, hc⟩
  · rintro ⟨r, hr, hc⟩
    exact ⟨r, (hiff r hc).1 hr, hc⟩

/-! ## The law of masking -/

/-- **What masking does to an image.**  The size stays, a pixel that some region covers has the
colour, and every other pixel is as before.  Where no sum leaves the range of 32 bits, what is
covered is what lies in a region at its place on the page.  It does not matter which kind lists a
region, nor whether regions are listed that are empty or show nothing in the image, and masking a
second time changes nothing. -/
theorem masked_exactly (color : Pixel) (img : Image) (ignores : IgnoreMap) (topAdjustment : Int32) :
    (apply color img ignores topAdjustment).1.dimensions = img.dimensions ∧
    (∀ x y, x < img.width.toNat → y < img.height.toNat →
      (Masked ignores topAdjustment x y →
        (apply color img ignores topAdjustment).1.get? x y = some color) ∧
      (¬ Masked ignores topAdjustment x y →
        (apply color img ignores topAdjustment).1.get? x y = img.get? x y)) ∧
    (0 ≤ topAdjustment.toInt → (∀ r, ignores.Has r → 0 ≤ r.y.toInt) →
      ∀ x y, Masked ignores topAdjustment x y ↔
        ∃ r, ignores.Has r ∧ r.Contains x (y + topAdjustment.toInt)) ∧
    (∀ ignores' : IgnoreMap,
      (∀ r, r.isEmpty = false →
        (∃ x y, x < img.width.toNat ∧ y < img.height.toNat ∧ Covers topAdjustment r x y) →
        (ignores'.Has r ↔ ignores.Has r)) →
      (apply color img ignores' topAdjustment).1 = (apply color img ignores topAdjustment).1) ∧
    (apply color (apply color img ignores topAdjustment).1 ignores topAdjustment).1 =
      (apply color img ignores topAdjustment).1 := by
  have hfills := fills_apply color img ignores topAdjustment
  refine ⟨hfills.dimensions_eq, fun x y hx hy => ⟨hfills.filled x y hx hy, hfills.kept x y hx hy⟩,
    fun hadjust hpage x y => ?_, fun ignores' h => apply_congr h,
    hfills.again (fills_apply color _ ignores topAdjustment)⟩
  exact exists_congr fun r => and_congr_right fun hr => covers_iff_contains hadjust (hpage r hr)

end Covered

namespace LeftColumn

/-- A white image of three columns and two rows. -/
def image : Image := .filled 3 2 ⟨255, 255, 255, 255⟩

/-- A region that begins left of the page and ends far below it. -/
def region : Rect := ⟨-1, 1, 2, 4294967295⟩

/-- A region without pixels. -/
def line : Rect := ⟨1, 1, 0, 7⟩

/-- The region is ignored for its place. -/
def ignores : IgnoreMap := ⟨none, some (.ofList [region])⟩

/-- The region is ignored for an element, and one without pixels for its place. -/
def others : IgnoreMap := ⟨some (.ofList [region]), some (.ofList [line])⟩

theorem has_ignores {r : Rect} : ignores.Has r ↔ r = region := by
  constructor
  · rintro ⟨_ | _, s, ⟨⟩, hr⟩
    simpa using hr
  · rintro rfl
    exact ⟨.area, _, rfl, by simp⟩

theorem has_others {r : Rect} : others.Has r ↔ r = region ∨ r = line := by
  constructor
  · rintro ⟨_ | _, s, ⟨⟩, hr⟩
    · exact .inl (by simpa using hr)
    · exact .inr (by simpa using hr)
  · rintro (rfl | rfl)
    · exact ⟨.element, _, rfl, by simp⟩
    · exact ⟨.area, _, rfl, by simp⟩

end LeftColumn

open LeftColumn in
/-- One row below the top of the page, the region covers the first column and no other, whatever the
reason to ignore it. -/
theorem masked_exactly_left_column :
    (apply ⟨0, 0, 0, 255⟩ image ignores 1).1.get? 0 1 = some ⟨0, 0, 0, 255⟩ ∧
      (apply ⟨0, 0, 0, 255⟩ image ignores 1).1.get? 1 1 = some ⟨255, 255, 255, 255⟩ ∧
      (∃ r, ignores.Has r ∧ r.Contains (0 : Nat) ((1 : Nat) + 1)) ∧
      (apply ⟨0, 0, 0, 255⟩ image others 1).1 = (apply ⟨0, 0, 0, 255⟩ image ignores 1).1 := by
  obtain ⟨-, hpixels, hpage, hsame, -⟩ := masked_exactly ⟨0, 0, 0, 255⟩ image ignores 1
  have hmasked : Masked ignores 1 0 1 := ⟨region, has_ignores.2 rfl, by decide⟩
  have hbeside : ¬ Masked ignores 1 1 1 := by
    rintro ⟨r, hr, hc⟩
    obtain rfl := has_ignores.1 hr
    exact absurd hc (by decide)
  refine ⟨(hpixels 0 1 (by decide) (by decide)).1 hmasked,
    ((hpixels 1 1 (by decide) (by decide)).2 hbeside).trans rfl,
    (hpage (by decide) (fun r hr => ?_) 0 1).1 hmasked, hsame others fun r hr _ => ?_⟩
  · obtain rfl := has_ignores.1 hr
    decide
  · rw [has_others, has_ignores, or_iff_left]
    rintro rfl
    cases hr

end Mask

end VisualRegression
