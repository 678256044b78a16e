import Mathlib.Data.Finset.Prod
import Mathlib.Data.Finset.Card
import Mathlib.Data.List.Nodup
import VisualRegression.Difference

/-!
# How many pixels differ

The comparison of two images walks through all positions and keeps those that differ.  Here the same
number is said without a walk: `differenceCount` is the number of positions at which some channel of
the two images is more than a tolerance apart.  `compare_ok` says that a comparison that comes to an
end has counted exactly these, and that it passes exactly if their share is within the percentage;
the rounded trigger never shows.
-/

namespace VisualRegression

/-- Some channel of two pixels is more than a tolerance apart. -/
def Pixel.Apart (tolerance : UInt8) (a b : Pixel) : Prop :=
  tolerance.toNat < ((a.red.toNat : Int) - b.red.toNat).natAbs ∨
    tolerance.toNat < ((a.green.toNat : Int) - b.green.toNat).natAbs ∨
    tolerance.toNat < ((a.blue.toNat : Int) - b.blue.toNat).natAbs ∨
    tolerance.toNat < ((a.alpha.toNat : Int) - b.alpha.toNat).natAbs

instance (tolerance : UInt8) (a b : Pixel) : Decidable (a.Apart tolerance b) := by
  unfold Pixel.Apart; infer_instance

theorem channelDistance_eq (a b : UInt8) :
    channelDistance a b = ((a.toNat : Int) - b.toNat).natAbs := by
  unfold channelDistance
  omega

theorem Pixel.differs_iff {tolerance : UInt8} {a b : Pixel} :
    a.differs tolerance b = true ↔ a.Apart tolerance b := by
  simp only [Pixel.differs, Pixel.channels, List.zip_cons_cons, List.zip_nil_right, List.any_cons,
    List.any_nil, Bool.or_false, Bool.or_eq_true, decide_eq_true_eq, channelDistance_eq,
    Pixel.Apart]

/-- Two images have pixels at a position, and these are more than a tolerance apart. -/
def Image.ApartAt (tolerance : UInt8) (a b : Image) (p : Nat × Nat) : Prop :=
  ∃ q, a.get? p.1 p.2 = some q ∧ ∃ r, b.get? p.1 p.2 = some r ∧ q.Apart tolerance r

instance (tolerance : UInt8) (a b : Image) (p : Nat × Nat) :
    Decidable (a.ApartAt tolerance b p) := by
  unfold Image.ApartAt; infer_instance

/-- **The number of positions at which two images are more than a tolerance apart** in some
channel. -/
def differenceCount (tolerance : UInt8) (a b : Image) : Nat :=
  ((Finset.range a.width.toNat ×ˢ Finset.range a.height.toNat).filter
    fun p => a.ApartAt tolerance b p).card

namespace Image

/-- Each position comes once. -/
theorem nodup_positions (img : Image) : img.positions.Nodup := by
  unfold positions
  refine List.nodup_flatMap.2 ⟨fun y _ => ?_, ?_⟩
  · exact List.nodup_range.map fun _ _ h => congrArg Prod.fst h
  · refine List.nodup_range.imp fun {y y'} hne => ?_
    intro p hp hp'
    obtain ⟨x, -, rfl⟩ := List.mem_map.1 hp
    obtain ⟨x', -, he⟩ := List.mem_map.1 hp'
    exact hne (congrArg Prod.snd he).symm

end Image

namespace Comparer

/-- The positions kept by the walk are those at which the images are apart. -/
theorem mem_differing_iff {c : Comparer} {candidate baseline : Image} {p : Nat × Nat} :
    p ∈ c.differing candidate baseline ↔ candidate.ApartAt c.tolerance baseline p := by
  rw [mem_differing]
  constructor
  · rintro ⟨a, b, ha, hb, h⟩
    exact ⟨a, ha, b, hb, Pixel.differs_iff.1 h⟩
  · rintro ⟨a, ha, b, hb, h⟩
    exact ⟨a, b, ha, hb, Pixel.differs_iff.2 h⟩

theorem length_differing (c : Comparer) (candidate baseline : Image) :
    (c.differing candidate baseline).length =
      differenceCount c.tolerance candidate baseline := by
  have hn : (c.differing candidate baseline).Nodup := candidate.nodup_positions.filter _
  rw [← List.toFinset_card_of_nodup hn, differenceCount]
  congr 1
  ext p
  rw [List.mem_toFinset, mem_differing_iff, Finset.mem_filter, Finset.mem_product,
    Finset.mem_range, Finset.mem_range]
  refine ⟨fun h => ⟨?_, h⟩, fun h => h.2⟩
  -- images are apart only where there is a pixel
  obtain ⟨q, hq, -⟩ := h
  by_contra hout
  rw [Image.get?, dif_neg hout] at hq
  cases hq

/-- **A comparison that comes to an end** was of two images of one size, and it passes exactly if
the share of the differing positions is within the percentage. -/
theorem compare_ok {c : Comparer} {candidate baseline : Image} {percentage : UInt8}
    {found : Difference} (h : c.compare candidate baseline percentage = .ok found) :
    candidate.dimensions = baseline.dimensions ∧
      found.differing = differenceCount c.tolerance candidate baseline ∧
      (found.passed = true ↔ 100 * differenceCount c.tolerance candidate baseline ≤
        percentage.toNat * (candidate.width.toNat * candidate.height.toNat)) := by
  simp only [compare] at h
  split at h
  · cases h
  · rename_i hd
    cases ht : Threshold.ofPercentage candidate.width candidate.height percentage with
    | error fault => rw [ht] at h; cases h
    | ok t =>
      rw [ht] at h
      cases h
      refine ⟨Decidable.not_not.1 hd, c.length_differing candidate baseline, ?_⟩
      have he := Threshold.exceeded_iff ht (differenceCount c.tolerance candidate baseline)
      rw [c.length_differing, Bool.not_eq_true', ← Bool.not_eq_true, he, Nat.not_lt]

/-- Images of one size are compared, whatever percentage up to one hundred is asked for. -/
theorem exists_compare_ok (c : Comparer) {candidate baseline : Image} {percentage : UInt8}
    (hd : candidate.dimensions = baseline.dimensions) (hp : percentage.toNat ≤ 100) :
    ∃ found, c.compare candidate baseline percentage = .ok found := by
  simp only [compare, hd, ne_eq, not_true_eq_false, if_false, Threshold.ofPercentage,
    Nat.not_lt.2 hp]
  exact ⟨_, rfl⟩

/-- Images of two sizes are not compared. -/
theorem compare_of_dimensions_ne (c : Comparer) {candidate baseline : Image} (percentage : UInt8)
    (hd : candidate.dimensions ≠ baseline.dimensions) :
    c.compare candidate baseline percentage =
      .error (.sizeMismatch baseline.dimensions candidate.dimensions) := by
  rw [compare, if_pos hd]

/-- What is refused for its size is of two sizes, and both are told. -/
theorem sizes_of_compare {c : Comparer} {candidate baseline : Image} {percentage : UInt8}
    {size size' : UInt32 × UInt32}
    (h : c.compare candidate baseline percentage = .error (.sizeMismatch size size')) :
    candidate.dimensions ≠ baseline.dimensions ∧ size = baseline.dimensions ∧
      size' = candidate.dimensions := by
  by_cases hd : candidate.dimensions = baseline.dimensions
  · simp only [compare, hd, ne_eq, not_true_eq_false, if_false] at h
    unfold Threshold.ofPercentage at h
    split at h <;> cases h
  · rw [c.compare_of_dimensions_ne percentage hd] at h
    cases h
    exact ⟨hd, rfl, rfl⟩

end Comparer

end VisualRegression
