import Mathlib.Data.Set.Card
import VisualRegression.Proofs.Difference.Outcome
import VisualRegression.Proofs.Mask.Covered

/-!
# Masking is neutral for a comparison

Where two images were filled with one colour there is nothing to find, so images that were masked
alike are apart where they were apart before and no region covers them.  `visiblyApart` is the set
of these positions, and `Difference.DescribesVisible` says what a comparison finds in terms of it,
with no masked image left.  Main statement: `compare_masked`.
-/

namespace VisualRegression

/-- **What is filled is not apart**, and nothing else changes. -/
theorem Image.Fills.apartAt_iff {color : Pixel} {P : Nat → Nat → Prop} {a b a' b' : Image}
    {tolerance : UInt8} (ha : Image.Fills color P a a') (hb : Image.Fills color P b b')
    (hd : a.dimensions = b.dimensions) (p : Nat × Nat) :
    a'.ApartAt tolerance b' p ↔ a.ApartAt tolerance b p ∧ ¬ P p.1 p.2 := by
  by_cases hin : p.1 < a.width.toNat ∧ p.2 < a.height.toNat
  · obtain ⟨hx, hy⟩ := hin
    obtain ⟨hw, hh⟩ := Prod.mk.inj hd
    have hx' : p.1 < b.width.toNat := hw ▸ hx
    have hy' : p.2 < b.height.toNat := hh ▸ hy
    by_cases hp : P p.1 p.2
    · refine iff_of_false (Image.not_apartAt_of_get?_eq ?_) fun h => h.2 hp
      rw [ha.filled _ _ hx hy hp, hb.filled _ _ hx' hy' hp]
    · unfold Image.ApartAt
      rw [ha.kept _ _ hx hy hp, hb.kept _ _ hx' hy' hp, and_iff_left hp]
  · -- outside there is no pixel to be apart
    refine iff_of_false (fun h => hin ?_) fun h => hin h.1.lt
    rw [← ha.width_eq, ← ha.height_eq]
    exact h.lt

/-- Images are apart at finitely many positions. -/
theorem finite_apartAt (tolerance : UInt8) (a b : Image) :
    {p | a.ApartAt tolerance b p}.Finite := by
  refine (Finset.range a.width.toNat ×ˢ Finset.range a.height.toNat).finite_toSet.subset ?_
  intro p hp
  rw [Finset.mem_coe, Finset.mem_product, Finset.mem_range, Finset.mem_range]
  exact Image.ApartAt.lt hp

theorem differenceCount_eq_ncard (tolerance : UInt8) (a b : Image) :
    differenceCount tolerance a b = {p | a.ApartAt tolerance b p}.ncard := by
  rw [differenceCount, ← Set.ncard_coe_finset]
  congr 1
  ext p
  rw [Finset.mem_coe, Finset.mem_filter, Finset.mem_product, Finset.mem_range, Finset.mem_range]
  exact ⟨fun h => h.2, fun h => ⟨Image.ApartAt.lt h, h⟩⟩

namespace Mask

variable {ignores ignores' : IgnoreMap} {topAdjustment : Int32} {tolerance : UInt8} {color : Pixel}
  {a b : Image}

/-- The positions at which two images are apart and that no region to ignore covers. -/
def visiblyApart (ignores : IgnoreMap) (topAdjustment : Int32) (tolerance : UInt8) (a b : Image) :
    Set (Nat × Nat) :=
  {p | a.ApartAt tolerance b p ∧ ¬ Masked ignores topAdjustment p.1 p.2}

theorem finite_visiblyApart (ignores : IgnoreMap) (topAdjustment : Int32) (tolerance : UInt8)
    (a b : Image) : (visiblyApart ignores topAdjustment tolerance a b).Finite :=
  (finite_apartAt tolerance a b).subset fun _ h => h.1

/-- More regions to ignore leave fewer positions to see. -/
theorem visiblyApart_subset (h : ∀ r, ignores.Has r → ignores'.Has r) :
    visiblyApart ignores' topAdjustment tolerance a b ⊆
      visiblyApart ignores topAdjustment tolerance a b := by
  rintro p ⟨hp, hnot⟩
  refine ⟨hp, fun ⟨r, hr, hcovers⟩ => hnot ⟨r, h r hr, hcovers⟩⟩

/-- Nothing is visible of a difference that lies below the regions. -/
theorem visiblyApart_of_sameOutside (h : a.SameOutside (Masked ignores topAdjustment) b) :
    visiblyApart ignores topAdjustment tolerance a b = ∅ := by
  refine Set.eq_empty_of_forall_notMem fun p ⟨hp, hnot⟩ => ?_
  exact Image.not_apartAt_of_get?_eq (h.get?_eq _ _ hp.lt.1 hp.lt.2 hnot) hp

/-- **Images that were masked alike are apart where they are visibly apart.** -/
theorem apartAt_apply (hd : a.dimensions = b.dimensions) (p : Nat × Nat) :
    (apply color a ignores topAdjustment).1.ApartAt tolerance
        (apply color b ignores topAdjustment).1 p ↔
      p ∈ visiblyApart ignores topAdjustment tolerance a b :=
  (fills_apply color a ignores topAdjustment).apartAt_iff
    (fills_apply color b ignores topAdjustment) hd p

theorem differenceCount_apply (hd : a.dimensions = b.dimensions) :
    differenceCount tolerance (apply color a ignores topAdjustment).1
        (apply color b ignores topAdjustment).1 =
      (visiblyApart ignores topAdjustment tolerance a b).ncard := by
  rw [differenceCount_eq_ncard]
  exact congrArg Set.ncard (Set.ext fun p => apartAt_apply hd p)

end Mask

open Mask

/-- The findings describe the visible difference of two images: how many positions that no region
covers are apart, whether these are too many, where they are, and an image with what is covered in
one colour and what is visibly apart in another. -/
structure Difference.DescribesVisible (found : Difference) (c : Comparer) (color : Pixel)
    (ignores : IgnoreMap) (topAdjustment : Int32) (a b : Image) (percentage : UInt8) : Prop where
  differing_eq : found.differing = (visiblyApart ignores topAdjustment c.tolerance a b).ncard
  passed_iff : found.passed = true ↔
    100 * (visiblyApart ignores topAdjustment c.tolerance a b).ncard ≤
      percentage.toNat * (a.width.toNat * a.height.toNat)
  changedRegion_eq_none_iff : found.changedRegion = none ↔
    visiblyApart ignores topAdjustment c.tolerance a b = ∅
  changedRegion_bounds : ∀ r, found.changedRegion = some r →
    r.Bounds (· ∈ visiblyApart ignores topAdjustment c.tolerance a b)
  dimensions_markup : found.markup.dimensions = a.dimensions
  markup_masked : ∀ x y, x < a.width.toNat → y < a.height.toNat → Masked ignores topAdjustment x y →
    found.markup.get? x y = some color
  markup_apart : ∀ p ∈ visiblyApart ignores topAdjustment c.tolerance a b,
    found.markup.get? p.1 p.2 = some ⟨c.color.red, c.color.green, c.color.blue, 255⟩
  markup_alike : ∀ x y, x < a.width.toNat → y < a.height.toNat →
    ¬ Masked ignores topAdjustment x y → ¬ a.ApartAt c.tolerance b (x, y) →
    found.markup.get? x y = a.get? x y

namespace Comparer

variable {c : Comparer} {color : Pixel} {ignores : IgnoreMap} {topAdjustment : Int32} {a b : Image}
  {percentage : UInt8}

/-- **What a comparison of masked images finds describes their visible difference.** -/
theorem describesVisible_of_compare (hd : a.dimensions = b.dimensions)
    (hw : a.width.toNat ≤ 2 ^ 31) (hh : a.height.toNat ≤ 2 ^ 31) {found : Difference}
    (h : c.compare (apply color a ignores topAdjustment).1 (apply color b ignores topAdjustment).1
      percentage = .ok found) :
    found.DescribesVisible c color ignores topAdjustment a b percentage := by
  have hfills := fills_apply color a ignores topAdjustment
  have hfound := describes_of_compare h (hfills.width_eq ▸ hw) (hfills.height_eq ▸ hh)
  have hcount : found.differing = (visiblyApart ignores topAdjustment c.tolerance a b).ncard :=
    hfound.differing_eq.trans (differenceCount_apply hd)
  have hapart : ∀ p, (apply color a ignores topAdjustment).1.ApartAt c.tolerance
      (apply color b ignores topAdjustment).1 p ↔
        p ∈ visiblyApart ignores topAdjustment c.tolerance a b := apartAt_apply hd
  constructor
  case differing_eq => exact hcount
  case passed_iff =>
    rw [hfound.passed_iff, hcount, hfills.width_eq, hfills.height_eq]
  case changedRegion_eq_none_iff =>
    rw [hfound.changedRegion_eq_none_iff, hcount,
      Set.ncard_eq_zero (finite_visiblyApart ignores topAdjustment c.tolerance a b)]
  case changedRegion_bounds =>
    intro r hr
    exact (hfound.changedRegion_bounds r hr).congr hapart
  case dimensions_markup => exact hfound.dimensions_markup.trans hfills.dimensions_eq
  case markup_masked =>
    intro x y hx hy hmasked
    rw [hfound.markup_alike (x, y) fun hp => ((hapart _).1 hp).2 hmasked]
    exact hfills.filled x y hx hy hmasked
  case markup_apart =>
    intro p hp
    exact hfound.markup_apart p ((hapart p).2 hp)
  case markup_alike =>
    intro x y hx hy hmasked halike
    rw [hfound.markup_alike (x, y) fun hp => halike ((hapart _).1 hp).1]
    exact hfills.kept x y hx hy hmasked

/-- Masked images of one size are compared. -/
theorem exists_compare_masked (c : Comparer) (color : Pixel) (ignores : IgnoreMap)
    (topAdjustment : Int32) (hd : a.dimensions = b.dimensions) (hp : percentage.toNat ≤ 100) :
    ∃ found, c.compare (apply color a ignores topAdjustment).1
      (apply color b ignores topAdjustment).1 percentage = .ok found := by
  refine c.exists_compare_ok ?_ hp
  rw [(fills_apply color a ignores topAdjustment).dimensions_eq,
    (fills_apply color b ignores topAdjustment).dimensions_eq, hd]

/-- **Masking is neutral for a comparison**, whatever the colour, the tolerance and the percentage.
Two masked images differ where the original ones do and nothing is covered, these positions are
counted and surrounded, and what is covered keeps the colour of the mask.  More regions to ignore
never make more differences nor fail what passed, and images that differ only below the regions
always pass. -/
theorem compare_masked (c : Comparer) (color : Pixel) (ignores : IgnoreMap) (topAdjustment : Int32)
    (hd : a.dimensions = b.dimensions) (hp : percentage.toNat ≤ 100)
    (hw : a.width.toNat ≤ 2 ^ 31) (hh : a.height.toNat ≤ 2 ^ 31) :
    ∃ found, c.compare (apply color a ignores topAdjustment).1
        (apply color b ignores topAdjustment).1 percentage = .ok found ∧
      found.DescribesVisible c color ignores topAdjustment a b percentage ∧
      (∀ ignores' : IgnoreMap, (∀ r, ignores.Has r → ignores'.Has r) →
        ∃ found', c.compare (apply color a ignores' topAdjustment).1
            (apply color b ignores' topAdjustment).1 percentage = .ok found' ∧
          found'.differing ≤ found.differing ∧ (found.passed = true → found'.passed = true)) ∧
      (a.SameOutside (Masked ignores topAdjustment) b →
        found.differing = 0 ∧ found.passed = true) := by
  obtain ⟨found, hfound⟩ := c.exists_compare_masked color ignores topAdjustment hd hp
  have hdescribes := describesVisible_of_compare hd hw hh hfound
  refine ⟨found, hfound, hdescribes, fun ignores' hmore => ?_, fun hsame => ?_⟩
  · obtain ⟨found', hfound'⟩ := c.exists_compare_masked color ignores' topAdjustment hd hp
    have hdescribes' := describesVisible_of_compare hd hw hh hfound'
    have hle : (visiblyApart ignores' topAdjustment c.tolerance a b).ncard ≤
        (visiblyApart ignores topAdjustment c.tolerance a b).ncard :=
      Set.ncard_le_ncard (visiblyApart_subset hmore) (finite_visiblyApart _ _ _ _ _)
    refine ⟨found', hfound', ?_, fun hpassed => ?_⟩
    · rw [hdescribes'.differing_eq, hdescribes.differing_eq]
      exact hle
    · rw [hdescribes'.passed_iff]
      exact (Nat.mul_le_mul_left 100 hle).trans (hdescribes.passed_iff.1 hpassed)
  · have hzero : (visiblyApart ignores topAdjustment c.tolerance a b).ncard = 0 := by
      rw [visiblyApart_of_sameOutside hsame, Set.ncard_empty]
    refine ⟨hdescribes.differing_eq.trans hzero, hdescribes.passed_iff.2 ?_⟩
    rw [hzero]
    exact Nat.zero_le _

end Comparer

namespace Mask.LeftColumn

/-- The image with a black pixel in the column that the region covers and one in the last column. -/
def changed : Image :=
  ⟨3, 2, #[⟨0, 0, 0, 255⟩, ⟨255, 255, 255, 255⟩, ⟨255, 255, 255, 255⟩,
    ⟨255, 255, 255, 255⟩, ⟨255, 255, 255, 255⟩, ⟨0, 0, 0, 255⟩], rfl⟩

theorem visiblyApart_changed : visiblyApart ignores 1 0 changed image = {(2, 1)} := by
  ext ⟨x, y⟩
  rw [Set.mem_singleton_iff]
  constructor
  · rintro ⟨hp, hnot⟩
    have hcases : ∀ x < 3, ∀ y < 2, changed.ApartAt 0 image (x, y) →
        (x, y) = (0, 0) ∨ (x, y) = (2, 1) := by decide
    refine (hcases x hp.lt.1 y hp.lt.2 hp).resolve_left fun hcorner => hnot ?_
    obtain ⟨rfl, rfl⟩ := Prod.mk.inj hcorner
    exact ⟨region, has_ignores.2 rfl, by decide⟩
  · rintro ⟨rfl, rfl⟩
    refine ⟨by decide, ?_⟩
    rintro ⟨r, hr, hcovers⟩
    obtain rfl := has_ignores.1 hr
    exact absurd hcovers (by decide)

end Mask.LeftColumn

open Mask.LeftColumn in
/-- Of the two black pixels only one can be seen, and what is covered keeps a colour that one can
see through. -/
theorem Comparer.compare_masked_left_column :
    ∃ found, (⟨0, ⟨1, 2, 3⟩⟩ : Comparer).compare (apply ⟨0, 0, 0, 127⟩ changed ignores 1).1
        (apply ⟨0, 0, 0, 127⟩ image ignores 1).1 16 = .ok found ∧
      found.differing = 1 ∧ found.passed = false ∧
      found.markup.get? 0 0 = some ⟨0, 0, 0, 127⟩ ∧
      found.markup.get? 2 1 = some ⟨1, 2, 3, 255⟩ := by
  have hd : changed.dimensions = image.dimensions := rfl
  have hp : (16 : UInt8).toNat ≤ 100 := by decide
  have hw : changed.width.toNat ≤ 2 ^ 31 := by decide
  have hh : changed.height.toNat ≤ 2 ^ 31 := by decide
  obtain ⟨found, hfound, hdescribes, -⟩ :=
    compare_masked ⟨0, ⟨1, 2, 3⟩⟩ ⟨0, 0, 0, 127⟩ ignores 1 hd hp hw hh
  have hcount : (visiblyApart ignores 1 0 changed image).ncard = 1 := by
    rw [visiblyApart_changed, Set.ncard_singleton]
  refine ⟨found, hfound, hdescribes.differing_eq.trans hcount, ?_, ?_, ?_⟩
  · -- one of six pixels is more than 16 percent
    rw [← Bool.not_eq_true, hdescribes.passed_iff, hcount]
    decide
  · exact hdescribes.markup_masked 0 0 (by decide) (by decide)
      ⟨region, has_ignores.2 rfl, by decide⟩
  · exact hdescribes.markup_apart (2, 1) (visiblyApart_changed ▸ rfl)

end VisualRegression
