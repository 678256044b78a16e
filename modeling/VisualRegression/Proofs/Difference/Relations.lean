import VisualRegression.Proofs.Difference.Outcome

/-!
# Comparisons related to each other

Which positions are apart depends neither on which image is the candidate nor on anything but the
tolerance, and with a greater tolerance fewer are.  So two comparisons of the same images can be
told from each other: with the images swapped (`compare_swap`), and with a tolerance and a
percentage that are not smaller (`within_of_compare`, `passed_of_compare`).  Main statement:
`compare_related`.
-/

namespace VisualRegression

/-! ## Positions that are apart -/

theorem Pixel.Apart.symm {tolerance : UInt8} {a b : Pixel} (h : a.Apart tolerance b) :
    b.Apart tolerance a := by
  unfold Pixel.Apart at h ⊢
  omega

/-- What a tolerance does not cover, no smaller one covers. -/
theorem Pixel.Apart.of_le {tolerance tolerance' : UInt8} {a b : Pixel} (h : a.Apart tolerance' b)
    (hle : tolerance ≤ tolerance') : a.Apart tolerance b := by
  have hle : tolerance.toNat ≤ tolerance'.toNat := hle
  unfold Pixel.Apart at h ⊢
  omega

namespace Image.ApartAt

variable {tolerance tolerance' : UInt8} {a b : Image} {p : Nat × Nat}

theorem symm (h : a.ApartAt tolerance b p) : b.ApartAt tolerance a p := by
  obtain ⟨q, hq, r, hr, hapart⟩ := h
  exact ⟨r, hr, q, hq, hapart.symm⟩

theorem of_le (h : a.ApartAt tolerance' b p) (hle : tolerance ≤ tolerance') :
    a.ApartAt tolerance b p := by
  obtain ⟨q, hq, r, hr, hapart⟩ := h
  exact ⟨q, hq, r, hr, hapart.of_le hle⟩

end Image.ApartAt

/-! ## Findings that are related -/

namespace Difference

/-- Two findings agree in everything but the images painted. -/
structure Alike (d d' : Difference) : Prop where
  differing_eq : d'.differing = d.differing
  percentage_eq : d'.percentage = d.percentage
  trigger_eq : d'.trigger = d.trigger
  passed_eq : d'.passed = d.passed
  changedRegion_eq : d'.changedRegion = d.changedRegion

/-- A finding lies within another one: not more pixels differ, and what has changed lies in what has
changed there. -/
structure Within (d' d : Difference) : Prop where
  differing_le : d'.differing ≤ d.differing
  changedRegion_subset : ∀ r', d'.changedRegion = some r' → ∃ r, d.changedRegion = some r ∧
    ∀ px py, r'.Contains px py → r.Contains px py

end Difference

/-- The fault when the images change places. -/
def CaptureFault.swapped : CaptureFault → CaptureFault
  | .sizeMismatch expected actual => .sizeMismatch actual expected
  | fault => fault

/-- A smallest rectangle around fewer positions lies in one around more. -/
theorem Rect.Bounds.subset {r r' : Rect} {P P' : Nat × Nat → Prop} (h : r.Bounds P)
    (h' : r'.Bounds P') (hsub : ∀ p, P' p → P p) {px py : Int} (hin : r'.Contains px py) :
    r.Contains px py :=
  h'.least r (fun p hp => h.contains p (hsub p hp)) px py hin

namespace Comparer

variable {c c' : Comparer} {a b : Image} {percentage percentage' : UInt8}
  {found found' : Difference}

/-! ## Swapped images -/

/-- The same positions differ whichever image is the candidate. -/
theorem differing_swap (c : Comparer) (hd : a.dimensions = b.dimensions) :
    c.differing b a = c.differing a b := by
  obtain ⟨hw, hh⟩ := Prod.mk.inj hd
  have hpositions : b.positions = a.positions := by
    unfold Image.positions
    rw [hw, hh]
  unfold differing
  rw [hpositions]
  refine List.filter_congr fun p _ => ?_
  rw [Bool.eq_iff_iff, differsAt_iff, differsAt_iff]
  exact ⟨Image.ApartAt.symm, Image.ApartAt.symm⟩

theorem differenceCount_swap (c : Comparer) (hd : a.dimensions = b.dimensions) :
    differenceCount c.tolerance b a = differenceCount c.tolerance a b := by
  rw [← c.length_differing, c.differing_swap hd, c.length_differing]

/-- Comparisons that come to an end agree if their images are swapped. -/
theorem alike_of_compare (h : c.compare a b percentage = .ok found)
    (h' : c.compare b a percentage = .ok found') : found.Alike found' := by
  obtain ⟨hd, hcount, hpassed⟩ := compare_ok h
  obtain ⟨-, hcount', hpassed'⟩ := compare_ok h'
  obtain ⟨htrigger, -, hregion, hshare⟩ := findings_of_compare h
  obtain ⟨htrigger', -, hregion', hshare'⟩ := findings_of_compare h'
  obtain ⟨hw, hh⟩ := Prod.mk.inj hd
  have hpixels : b.pixelCount = a.pixelCount := by
    unfold Image.pixelCount
    rw [hw, hh]
  rw [c.differenceCount_swap hd] at hcount' hpassed'
  rw [c.differing_swap hd] at hregion' hshare'
  refine ⟨hcount'.trans hcount.symm, ?_, ?_, ?_, hregion'.trans hregion.symm⟩
  · rw [hshare', hshare, hpixels]
  · rw [htrigger', htrigger, hw, hh]
  · rw [Bool.eq_iff_iff, hpassed', hpassed, hw, hh]

/-- **A comparison with the images swapped** finds the same, or fails for the same reason with the
two sizes swapped. -/
theorem compare_swap (c : Comparer) (a b : Image) (percentage : UInt8) :
    match c.compare a b percentage with
    | .ok found => ∃ found', c.compare b a percentage = .ok found' ∧ found.Alike found'
    | .error fault => c.compare b a percentage = .error fault.swapped := by
  by_cases hd : a.dimensions = b.dimensions
  · by_cases hp : percentage.toNat ≤ 100
    · obtain ⟨found, hfound⟩ := c.exists_compare_ok hd hp
      obtain ⟨found', hfound'⟩ := c.exists_compare_ok hd.symm hp
      rw [hfound]
      exact ⟨found', hfound', alike_of_compare hfound hfound'⟩
    · have hp : 100 < percentage.toNat := Nat.lt_of_not_le hp
      rw [compare_of_percentage_gt hd hp]
      exact compare_of_percentage_gt hd.symm hp
  · rw [c.compare_of_dimensions_ne percentage hd]
    exact c.compare_of_dimensions_ne percentage (Ne.symm hd)

/-! ## Greater tolerances and percentages -/

/-- With a greater tolerance fewer positions differ, in the order in which they did. -/
theorem differing_sublist (a b : Image) (hle : c.tolerance ≤ c'.tolerance) :
    (c'.differing a b).Sublist (c.differing a b) := by
  refine List.monotone_filter_right _ fun p hp => ?_
  rw [differsAt_iff] at hp ⊢
  exact hp.of_le hle

theorem differenceCount_le_of_le (a b : Image) (hle : c.tolerance ≤ c'.tolerance) :
    differenceCount c'.tolerance a b ≤ differenceCount c.tolerance a b := by
  rw [← c'.length_differing, ← c.length_differing]
  exact (differing_sublist a b hle).length_le

/-- **What is found with a greater tolerance lies within what is found with a smaller one.** -/
theorem within_of_compare (h : c.compare a b percentage = .ok found)
    (h' : c'.compare a b percentage' = .ok found') (hle : c.tolerance ≤ c'.tolerance)
    (hw : a.width.toNat ≤ 2 ^ 31) (hh : a.height.toNat ≤ 2 ^ 31) : found'.Within found := by
  have hd := describes_of_compare h hw hh
  have hd' := describes_of_compare h' hw hh
  have hcount : found'.differing ≤ found.differing := by
    rw [hd.differing_eq, hd'.differing_eq]
    exact differenceCount_le_of_le a b hle
  refine ⟨hcount, fun r' hr' => ?_⟩
  -- where something has changed, something has changed with the smaller tolerance too
  have hsome : found.changedRegion ≠ none := by
    intro hnone
    have hzero := hd.changedRegion_eq_none_iff.1 hnone
    rw [hd'.changedRegion_eq_none_iff.2 (Nat.le_zero.1 (hzero ▸ hcount))] at hr'
    cases hr'
  obtain ⟨r, hr⟩ := Option.ne_none_iff_exists'.1 hsome
  exact ⟨r, hr, fun _ _ hin =>
    (hd.changedRegion_bounds r hr).subset (hd'.changedRegion_bounds r' hr')
      (fun _ hp => hp.of_le hle) hin⟩

/-- **What passes, passes with a greater tolerance and a greater percentage too.** -/
theorem passed_of_compare (h : c.compare a b percentage = .ok found)
    (h' : c'.compare a b percentage' = .ok found') (hle : c.tolerance ≤ c'.tolerance)
    (hp : percentage ≤ percentage') (hpassed : found.passed = true) : found'.passed = true := by
  obtain ⟨-, -, hiff⟩ := compare_ok h
  obtain ⟨-, -, hiff'⟩ := compare_ok h'
  have hcount := differenceCount_le_of_le a b hle
  have hp : percentage.toNat ≤ percentage'.toNat := hp
  rw [hiff']
  calc 100 * differenceCount c'.tolerance a b
      ≤ 100 * differenceCount c.tolerance a b := Nat.mul_le_mul_left _ hcount
    _ ≤ percentage.toNat * (a.width.toNat * a.height.toNat) := hiff.1 hpassed
    _ ≤ percentage'.toNat * (a.width.toNat * a.height.toNat) := Nat.mul_le_mul_right _ hp

/-- All pixels may differ if a hundred percent of them may. -/
theorem compare_hundred (c : Comparer) (hd : a.dimensions = b.dimensions) :
    ∃ found, c.compare a b 100 = .ok found ∧ found.passed = true := by
  have hle : (100 : UInt8).toNat ≤ 100 := Nat.le_refl 100
  obtain ⟨found, hfound⟩ := c.exists_compare_ok hd hle
  obtain ⟨-, -, hiff⟩ := compare_ok hfound
  exact ⟨found, hfound, hiff.2 (Nat.mul_le_mul_left 100 (differenceCount_le _ _ _))⟩

/-! ## All together -/

/-- **Comparisons of the same images are related to each other.**  With the images swapped the same
is found, or the fault is the same with the sizes swapped.  With a greater tolerance fewer positions
differ, what is found lies within what was found before, and what passed passes again with any
percentage that is not smaller.  Images of one size pass at a hundred percent.  An image passes when
it is compared with itself, nothing differs and nothing is painted, unless the percentage is above
one hundred, which is refused. -/
theorem compare_related (c : Comparer) (a b : Image) (percentage : UInt8) :
    (match c.compare a b percentage with
      | .ok found => ∃ found', c.compare b a percentage = .ok found' ∧ found.Alike found'
      | .error fault => c.compare b a percentage = .error fault.swapped) ∧
    (∀ (c' : Comparer) (percentage' : UInt8), c.tolerance ≤ c'.tolerance →
      (c'.differing a b).Sublist (c.differing a b) ∧
      (a.dimensions = b.dimensions → percentage.toNat ≤ 100 → percentage'.toNat ≤ 100 →
        ∃ found found', c.compare a b percentage = .ok found ∧
          c'.compare a b percentage' = .ok found' ∧
          (a.width.toNat < 2 ^ 31 → a.height.toNat < 2 ^ 31 → found'.Within found) ∧
          (percentage ≤ percentage' → found.passed = true → found'.passed = true))) ∧
    (a.dimensions = b.dimensions →
      ∃ found, c.compare a b 100 = .ok found ∧ found.passed = true) ∧
    (percentage.toNat ≤ 100 →
      ∃ found, c.compare a a percentage = .ok found ∧ found.passed = true ∧
        found.differing = 0 ∧ found.changedRegion = none ∧ found.markup = a) ∧
    (100 < percentage.toNat →
      c.compare a a percentage = .error (.setting (.percentageTooLarge percentage))) := by
  refine ⟨c.compare_swap a b percentage, fun c' percentage' hle => ⟨differing_sublist a b hle, ?_⟩,
    c.compare_hundred, fun hp => ?_, compare_of_percentage_gt rfl⟩
  · intro hd hp hp'
    obtain ⟨found, hfound⟩ := c.exists_compare_ok hd hp
    obtain ⟨found', hfound'⟩ := c'.exists_compare_ok hd hp'
    refine ⟨found, found', hfound, hfound', fun hw hh => ?_, passed_of_compare hfound hfound' hle⟩
    exact within_of_compare hfound hfound' hle (Nat.le_of_lt hw) (Nat.le_of_lt hh)
  · obtain ⟨found, hfound, hpassed, -, hmarkup, hregion⟩ := c.compare_self a hp
    obtain ⟨-, hcount, -⟩ := compare_ok hfound
    exact ⟨found, hfound, hpassed, hcount.trans (differenceCount_self _ _), hregion, hmarkup⟩

open TwoChanged in
/-- The pixel that is almost black differs with a tolerance of five and does not with one of twenty.
Three of six pixels are half of them, and two are too. -/
theorem compare_related_two_changed :
    ∃ found found' swapped,
      ({ tolerance := 5 } : Comparer).compare after before 50 = .ok found ∧
      ({ tolerance := 20 } : Comparer).compare after before 60 = .ok found' ∧
      ({ tolerance := 5 } : Comparer).compare before after 50 = .ok swapped ∧
      found.Alike swapped ∧ found'.Within found ∧ found.passed = true ∧ found'.passed = true ∧
      (∃ same, ({ tolerance := 5 } : Comparer).compare after after 50 = .ok same ∧
        same.passed = true ∧ same.differing = 0 ∧ same.changedRegion = none ∧
        same.markup = after) ∧
      ({ tolerance := 5 } : Comparer).compare after after 101 =
        .error (.setting (.percentageTooLarge 101)) := by
  obtain ⟨hswap, hlooser, -, hself, -⟩ := compare_related { tolerance := 5 } after before 50
  obtain ⟨-, hrelated⟩ := hlooser { tolerance := 20 } 60 (by decide)
  obtain ⟨found, found', hfound, hfound', hwithin, hpassed⟩ :=
    hrelated rfl (by decide) (by decide)
  rw [hfound] at hswap
  obtain ⟨swapped, hswapped, halike⟩ := hswap
  have hhalf : found.passed = true := (compare_ok hfound).2.2.2 (by decide)
  exact ⟨found, found', swapped, hfound, hfound', hswapped, halike, hwithin (by decide) (by decide),
    hhalf, hpassed (by decide) hhalf, hself (by decide),
    (compare_related { tolerance := 5 } after before 101).2.2.2.2 (by decide)⟩

/-- An image does not pass against itself with a percentage above one hundred: there is nothing to
pass, since the percentage is refused. -/
theorem compare_self_refused :
    ({} : Comparer).compare (.filled 2 1 (.solid 16 32 48)) (.filled 2 1 (.solid 16 32 48)) 101 =
        .error (.setting (.percentageTooLarge 101)) ∧
      ¬ ∀ (c : Comparer) (img : Image) (percentage : UInt8),
        ∃ found, c.compare img img percentage = .ok found ∧ found.passed = true ∧
          found.differing = 0 ∧ found.changedRegion = none ∧ found.markup = img := by
  have hrefused : ({} : Comparer).compare (.filled 2 1 (.solid 16 32 48))
      (.filled 2 1 (.solid 16 32 48)) 101 = .error (.setting (.percentageTooLarge 101)) :=
    compare_of_percentage_gt rfl (by decide)
  refine ⟨hrefused, fun hall => ?_⟩
  obtain ⟨found, hfound, -⟩ := hall {} (.filled 2 1 (.solid 16 32 48)) 101
  rw [hrefused] at hfound
  cases hfound

end Comparer

end VisualRegression
