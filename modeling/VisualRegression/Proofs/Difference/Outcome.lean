import VisualRegression.Proofs.Difference.Count
import VisualRegression.Proofs.Difference.Extent
import VisualRegression.Proofs.Image

/-!
# What a comparison finds

`Difference.Describes` says what the findings of a comparison are in terms of the positions at which
two images are apart, with neither a walk nor a rounding in it.  A comparison of two images of one
size comes to such findings, and any other is refused for a reason that can be told beforehand:
`compare_outcome`.
-/

namespace VisualRegression

/-- The findings describe the difference of two images: how many positions are apart, whether these
are too many, where they are and what they look like when they are painted over. -/
structure Difference.Describes (found : Difference) (c : Comparer) (candidate baseline : Image)
    (percentage : UInt8) : Prop where
  differing_eq : found.differing = differenceCount c.tolerance candidate baseline
  differing_le : found.differing ≤ candidate.width.toNat * candidate.height.toNat
  trigger_eq : found.trigger =
    candidate.width.toNat * candidate.height.toNat * percentage.toNat / 100
  passed_iff : found.passed = true ↔
    100 * found.differing ≤ percentage.toNat * (candidate.width.toNat * candidate.height.toNat)
  dimensions_markup : found.markup.dimensions = candidate.dimensions
  /-- A position that is apart has the colour of differences, without opacity missing. -/
  markup_apart : ∀ p, candidate.ApartAt c.tolerance baseline p →
    found.markup.get? p.1 p.2 = some ⟨c.color.red, c.color.green, c.color.blue, 255⟩
  markup_alike : ∀ p, ¬ candidate.ApartAt c.tolerance baseline p →
    found.markup.get? p.1 p.2 = candidate.get? p.1 p.2
  changedRegion_eq_none_iff : found.changedRegion = none ↔ found.differing = 0
  changedRegion_bounds : ∀ r, found.changedRegion = some r →
    r.Bounds (candidate.ApartAt c.tolerance baseline)

theorem Image.ApartAt.lt {tolerance : UInt8} {a b : Image} {p : Nat × Nat}
    (h : a.ApartAt tolerance b p) : p.1 < a.width.toNat ∧ p.2 < a.height.toNat := by
  obtain ⟨q, hq, -⟩ := h
  by_contra hout
  rw [get?_eq_none_iff.2 hout] at hq
  cases hq

/-- No more positions are apart than there are. -/
theorem differenceCount_le (tolerance : UInt8) (a b : Image) :
    differenceCount tolerance a b ≤ a.width.toNat * a.height.toNat := by
  refine (Finset.card_filter_le _ _).trans (Nat.le_of_eq ?_)
  rw [Finset.card_product, Finset.card_range, Finset.card_range]

/-- Images are not apart where they have the same pixel. -/
theorem Image.not_apartAt_of_get?_eq {tolerance : UInt8} {a b : Image} {p : Nat × Nat}
    (h : a.get? p.1 p.2 = b.get? p.1 p.2) : ¬ a.ApartAt tolerance b p := by
  rintro ⟨q, hq, r, hr, happart⟩
  rw [h, hr] at hq
  cases hq
  simp [Pixel.Apart] at happart

/-- An image is nowhere apart from itself. -/
theorem Image.not_apartAt_self (tolerance : UInt8) (img : Image) (p : Nat × Nat) :
    ¬ img.ApartAt tolerance img p := not_apartAt_of_get?_eq rfl

/-- Nothing is counted exactly if the images are nowhere apart. -/
theorem differenceCount_eq_zero_iff {tolerance : UInt8} {a b : Image} :
    differenceCount tolerance a b = 0 ↔ ∀ p, ¬ a.ApartAt tolerance b p := by
  rw [differenceCount, Finset.card_eq_zero, Finset.filter_eq_empty_iff]
  refine ⟨fun h p hp => h ?_ hp, fun h p _ => h p⟩
  rw [Finset.mem_product, Finset.mem_range, Finset.mem_range]
  exact hp.lt

theorem differenceCount_self (tolerance : UInt8) (img : Image) :
    differenceCount tolerance img img = 0 :=
  differenceCount_eq_zero_iff.2 (img.not_apartAt_self tolerance)

namespace Comparer

variable {c : Comparer} {candidate baseline : Image} {percentage : UInt8}

theorem differsAt_iff {p : Nat × Nat} :
    c.differsAt candidate baseline p = true ↔ candidate.ApartAt c.tolerance baseline p := by
  unfold differsAt Image.ApartAt
  rcases candidate.get? p.1 p.2 with _ | a
  · simp
  · rcases baseline.get? p.1 p.2 with _ | b
    · simp
    · simp [Pixel.differs_iff]

/-- A position of the painted image has the colour of differences or is as it was. -/
theorem get?_markup (c : Comparer) (candidate baseline : Image) (p : Nat × Nat) :
    (c.markup candidate baseline).get? p.1 p.2 = (candidate.get? p.1 p.2).map fun q =>
      if candidate.ApartAt c.tolerance baseline p then c.color.toPixel else q := by
  rw [markup, Image.get?_mapPixels]
  simp only [differsAt_iff]

/-- Nothing has changed exactly if no position is apart. -/
theorem changedRegion_eq_none_iff :
    (Box.around (c.differing candidate baseline)).map Box.toRect = none ↔
      differenceCount c.tolerance candidate baseline = 0 := by
  rw [Option.map_eq_none_iff, Box.around_eq_none_iff, ← c.length_differing, List.length_eq_zero_iff]

/-- What has changed lies in the smallest rectangle around the positions that are apart. -/
theorem changedRegion_bounds (hw : candidate.width.toNat ≤ 2 ^ 31)
    (hh : candidate.height.toNat ≤ 2 ^ 31) {r : Rect}
    (hr : (Box.around (c.differing candidate baseline)).map Box.toRect = some r) :
    r.Bounds (candidate.ApartAt c.tolerance baseline) := by
  obtain ⟨b, hb, rfl⟩ := Option.map_eq_some_iff.1 hr
  have hframes : b.Frames (candidate.ApartAt c.tolerance baseline) :=
    (Box.frames_around hb).congr fun p => mem_differing_iff
  refine hframes.bounds_toRect fun p hp => ?_
  have := hp.lt
  omega

/-- A comparison that comes to an end has a trigger, a painted image, a region and a share. -/
theorem findings_of_compare {found : Difference}
    (h : c.compare candidate baseline percentage = .ok found) :
    found.trigger = candidate.height.toNat * candidate.width.toNat * percentage.toNat / 100 ∧
      found.markup = c.markup candidate baseline ∧
      found.changedRegion = (Box.around (c.differing candidate baseline)).map Box.toRect ∧
      found.percentage = share (c.differing candidate baseline).length candidate.pixelCount := by
  simp only [compare, Threshold.ofPercentage] at h
  split at h
  · cases h
  · split at h
    · cases h
    · cases h
      exact ⟨rfl, rfl, rfl, rfl⟩

/-- **What a comparison of images of one size finds describes their difference.** -/
theorem describes_of_compare {found : Difference}
    (h : c.compare candidate baseline percentage = .ok found) (hw : candidate.width.toNat ≤ 2 ^ 31)
    (hh : candidate.height.toNat ≤ 2 ^ 31) :
    found.Describes c candidate baseline percentage := by
  obtain ⟨-, hcount, hpassed⟩ := compare_ok h
  obtain ⟨htrigger, hmarkup, hregion, -⟩ := findings_of_compare h
  constructor
  case differing_eq => exact hcount
  case differing_le =>
    rw [hcount]
    exact differenceCount_le _ _ _
  case trigger_eq => rw [htrigger, Nat.mul_comm candidate.height.toNat]
  case passed_iff =>
    rw [hcount]
    exact hpassed
  case dimensions_markup =>
    rw [hmarkup]
    rfl
  case markup_apart =>
    intro p hp
    rw [hmarkup, get?_markup, Image.get?_eq_some candidate hp.lt.1 hp.lt.2]
    exact congrArg some (if_pos hp)
  case markup_alike =>
    intro p hp
    rw [hmarkup, get?_markup]
    simp only [if_neg hp, Option.map_id']
  case changedRegion_eq_none_iff =>
    rw [hregion, hcount]
    exact changedRegion_eq_none_iff
  case changedRegion_bounds =>
    intro r hr
    exact changedRegion_bounds hw hh (hregion ▸ hr)

/-- A percentage above one hundred is refused for images of one size. -/
theorem compare_of_percentage_gt (hd : candidate.dimensions = baseline.dimensions)
    (hp : 100 < percentage.toNat) :
    c.compare candidate baseline percentage =
      .error (.setting (.percentageTooLarge percentage)) := by
  simp only [compare, hd, ne_eq, not_true_eq_false, if_false, Threshold.ofPercentage, if_pos hp]
  rfl

/-- **What comes of every comparison.**  Images of two sizes are refused with both sizes, whatever
the percentage; images of one size are refused if the percentage is above one hundred, and else the
findings describe their difference. -/
theorem compare_outcome (c : Comparer) (candidate baseline : Image) (percentage : UInt8) :
    (candidate.dimensions ≠ baseline.dimensions →
      c.compare candidate baseline percentage =
        .error (.sizeMismatch baseline.dimensions candidate.dimensions)) ∧
    (candidate.dimensions = baseline.dimensions → 100 < percentage.toNat →
      c.compare candidate baseline percentage =
        .error (.setting (.percentageTooLarge percentage))) ∧
    (candidate.dimensions = baseline.dimensions → percentage.toNat ≤ 100 →
      candidate.width.toNat ≤ 2 ^ 31 → candidate.height.toNat ≤ 2 ^ 31 →
      ∃ found, c.compare candidate baseline percentage = .ok found ∧
        found.Describes c candidate baseline percentage) := by
  refine ⟨c.compare_of_dimensions_ne percentage, compare_of_percentage_gt, fun hd hp hw hh => ?_⟩
  obtain ⟨found, hfound⟩ := c.exists_compare_ok hd hp
  exact ⟨found, hfound, describes_of_compare hfound hw hh⟩

/-- **An image that is compared with itself** passes without a difference, whatever the tolerance
and the percentage, and nothing is painted. -/
theorem compare_self (c : Comparer) (img : Image) (hp : percentage.toNat ≤ 100) :
    ∃ found, c.compare img img percentage = .ok found ∧ found.passed = true ∧
      found.percentage = share 0 img.pixelCount ∧ found.markup = img ∧
      found.changedRegion = none := by
  have hnone : c.differing img img = [] := by
    rw [← List.length_eq_zero_iff, length_differing, differenceCount_self]
  obtain ⟨found, hfound⟩ := c.exists_compare_ok (Eq.refl img.dimensions) hp
  obtain ⟨-, -, hpassed⟩ := compare_ok hfound
  obtain ⟨-, hmarkup, hregion, hshare⟩ := findings_of_compare hfound
  refine ⟨found, hfound, ?_, ?_, ?_, ?_⟩
  · rw [hpassed, differenceCount_self]
    exact Nat.zero_le _
  · rw [hshare, hnone]
    rfl
  · rw [hmarkup]
    refine Image.ext_get? rfl fun x y _ _ => ?_
    rw [get?_markup c img img (x, y)]
    simp only [if_neg (img.not_apartAt_self c.tolerance (x, y)), Option.map_id']
  · rw [hregion, hnone]
    rfl

namespace TwoChanged

/-- A black image of three columns and two rows. -/
def before : Image := .filled 3 2 ⟨0, 0, 0, 255⟩

/-- The same image with two grey pixels, at the right of the first row and at the left of the second
one, and a third one that is almost black. -/
def after : Image :=
  ⟨3, 2, #[⟨0, 0, 0, 255⟩, ⟨9, 0, 0, 255⟩, ⟨99, 99, 99, 255⟩,
    ⟨99, 99, 99, 255⟩, ⟨0, 0, 0, 255⟩, ⟨0, 0, 0, 255⟩], rfl⟩

end TwoChanged

open TwoChanged in
/-- Two of six pixels are a third, which is within 34 percent and reaches all over the image. -/
theorem compare_outcome_two_changed :
    ∃ found, (⟨10, ⟨1, 2, 3⟩⟩ : Comparer).compare after before 34 = .ok found ∧
      found.differing = 2 ∧ found.trigger = 2 ∧ found.passed = true ∧
      found.markup.get? 2 0 = some ⟨1, 2, 3, 255⟩ ∧
      found.markup.get? 1 0 = some ⟨9, 0, 0, 255⟩ ∧
      ∃ r, found.changedRegion = some r ∧ r.Contains 0 0 := by
  obtain ⟨found, hfound, hd⟩ := (compare_outcome ⟨10, ⟨1, 2, 3⟩⟩ after before 34).2.2 rfl
    (by decide) (by decide) (by decide)
  have hcount : found.differing = 2 := hd.differing_eq.trans (by decide)
  have hregion : found.changedRegion ≠ none := by
    rw [Ne, hd.changedRegion_eq_none_iff, hcount]
    decide
  obtain ⟨r, hr⟩ := Option.ne_none_iff_exists'.1 hregion
  refine ⟨found, hfound, hcount, hd.trigger_eq.trans (by decide), hd.passed_iff.2 ?_,
    hd.markup_apart (2, 0) (by decide), (hd.markup_alike (1, 0) (by decide)).trans rfl, r, hr, ?_⟩
  · rw [hcount]
    decide
  · -- the one pixel touches the right edge and the other one the left edge
    have hright := (hd.changedRegion_bounds r hr).contains (2, 0) (by decide)
    have hleft := (hd.changedRegion_bounds r hr).contains (0, 1) (by decide)
    exact ⟨hleft.1, hleft.2.1, hright.2.2.1, hright.2.2.2⟩

end Comparer

end VisualRegression
