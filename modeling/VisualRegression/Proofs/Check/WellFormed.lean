import VisualRegression.Proofs.Check.Verdict
import VisualRegression.Proofs.Difference.Outcome

/-!
# What goes together in a result

A result has room for a baseline, a painted image, a region, a reason and a verdict, and each of its
makers fills some of them.  `CheckResult.WellFormed` says which of them go together.  It holds of
what each maker makes of what it is given (`wellFormed_established`, `wellFormed_compared`,
`wellFormed_invalidBaseline`), and so of the result of every check: `execute_wellFormed`.
-/

namespace VisualRegression

/-- The rectangle lies inside an image. -/
structure Rect.Within (r : Rect) (img : Image) : Prop where
  left : 0 ≤ r.x.toInt
  right : r.right ≤ img.width.toNat
  top : 0 ≤ r.y.toInt
  bottom : r.bottom ≤ img.height.toNat

/-- The smallest rectangle around positions of an image lies inside it. -/
theorem Rect.Bounds.within {r : Rect} {P : Nat × Nat → Prop} {img : Image} (h : r.Bounds P)
    (hP : ∀ p, P p → p.1 < img.width.toNat ∧ p.2 < img.height.toNat) : r.Within img := by
  obtain ⟨left, -, hleft⟩ := h.left_touched
  obtain ⟨right, hright, hr⟩ := h.right_touched
  obtain ⟨top, -, htop⟩ := h.top_touched
  obtain ⟨bottom, hbottom, hb⟩ := h.bottom_touched
  have hcolumn := (hP right hright).1
  have hrow := (hP bottom hbottom).2
  constructor <;> omega

namespace CheckResult

/-- **The parts of a result go together**, and it is that of a check. -/
structure WellFormed (r : CheckResult) (c : Check) (tolerance : UInt8) : Prop where
  checkId_eq : r.checkId = c.id
  baselineName_eq : r.baselineName = c.baseline
  action_eq : r.action = c.action
  found_iff : r.baselineFound = true ↔ ∃ baseline, r.baseline = some baseline
  /-- An image is painted exactly where a comparison tells whether the images look the same. -/
  diff_iff : (∃ markup, r.diff = some markup) ↔ ∃ same, r.passed = some same
  compared : ∀ markup, r.diff = some markup →
    r.failure = none ∧ r.action ≠ .establish ∧ markup.dimensions = r.checkpoint.dimensions ∧
      ∃ baseline, r.baseline = some baseline ∧ baseline.dimensions = r.checkpoint.dimensions
  failure_iff : (∃ reason, r.failure = some reason) ↔
    r.action ≠ .establish ∧
      ∃ baseline, r.baseline = some baseline ∧ baseline.dimensions ≠ r.checkpoint.dimensions
  incomparable : ∀ reason, r.failure = some reason →
    r.diffPercentage = 100 ∧ r.changedRegion = none
  /-- There is a region exactly where a comparison found a pixel that differs. -/
  changed_iff : (∃ region, r.changedRegion = some region) ↔
    ∃ markup baseline, r.diff = some markup ∧ r.baseline = some baseline ∧
      ∃ p, r.checkpoint.ApartAt tolerance baseline p
  changed_within : r.checkpoint.width.toNat ≤ 2 ^ 31 → r.checkpoint.height.toNat ≤ 2 ^ 31 →
    ∀ region, r.changedRegion = some region → region.Within r.checkpoint
  verdict_iff : r.verdict = none ↔ r.action = .establish

variable {c : Check} {now : Instant} {checkpoint baseline : Image} {tolerance : UInt8}

/-! ## What the makers of results make -/

/-- Where nothing was compared, because a baseline was to be kept or because there was none, nothing
is told but which baseline there was. -/
theorem wellFormed_established {previous : Option Image}
    (h : c.action = .establish ∨ previous = none) (now : Instant) (checkpoint : Image)
    (tolerance : UInt8) :
    (established c now checkpoint previous).WellFormed c tolerance := by
  constructor
  case checkId_eq | baselineName_eq | action_eq => rfl
  case found_iff => exact Option.isSome_iff_exists
  case diff_iff => exact iff_of_false (by rintro ⟨_, ⟨⟩⟩) (by rintro ⟨_, ⟨⟩⟩)
  case changed_iff => exact iff_of_false (by rintro ⟨_, ⟨⟩⟩) (by rintro ⟨_, _, ⟨⟩, -⟩)
  case compared | incomparable =>
    intro _ hsome
    cases hsome
  case changed_within =>
    intro _ _ _ hsome
    cases hsome
  case failure_iff =>
    constructor
    · rintro ⟨_, hsome⟩
      cases hsome
    · rintro ⟨hne, baseline, hsome, -⟩
      rcases h with hc | hnone
      · exact absurd hc hne
      · exact absurd hsome (by simp [established, hnone])
  case verdict_iff =>
    by_cases hc : c.action = .establish
    · exact iff_of_true (by simp [verdict, established, hc]) hc
    · obtain rfl := h.resolve_left hc
      exact iff_of_false (by simp [verdict, established, hc]) hc

/-- **What is told of images that were compared**: they are of one size, so is the painted one, and
the region is there if some pixel differs. -/
theorem wellFormed_compared {comparer : Comparer} {percentage : UInt8} {found : Difference}
    (hc : c.action ≠ .establish) (now : Instant)
    (hfound : comparer.compare checkpoint baseline percentage = .ok found) :
    (compared c now checkpoint baseline found).WellFormed c comparer.tolerance := by
  obtain ⟨hd, hcount, -⟩ := Comparer.compare_ok hfound
  obtain ⟨-, hmarkup, hregion, -⟩ := Comparer.findings_of_compare hfound
  constructor
  case checkId_eq | baselineName_eq | action_eq => rfl
  case found_iff => exact iff_of_true rfl ⟨baseline, rfl⟩
  case diff_iff => exact iff_of_true ⟨found.markup, rfl⟩ ⟨found.passed, rfl⟩
  case compared =>
    intro markup h
    obtain rfl := Option.some.inj h
    refine ⟨rfl, hc, ?_, baseline, rfl, hd.symm⟩
    rw [hmarkup]
    rfl
  case failure_iff =>
    constructor
    · rintro ⟨reason, h⟩
      cases h
    · rintro ⟨-, other, h, hne⟩
      obtain rfl := Option.some.inj h
      exact absurd hd.symm hne
  case incomparable =>
    intro reason h
    cases h
  case changed_iff =>
    have hsome : (∃ region, found.changedRegion = some region) ↔
        ∃ p, checkpoint.ApartAt comparer.tolerance baseline p := by
      rw [← Option.ne_none_iff_exists', hregion, Ne, Comparer.changedRegion_eq_none_iff,
        differenceCount_eq_zero_iff, not_forall_not]
    refine hsome.trans ⟨fun h => ⟨found.markup, baseline, rfl, rfl, h⟩, ?_⟩
    rintro ⟨markup, other, -, h, hp⟩
    obtain rfl := Option.some.inj h
    exact hp
  case changed_within =>
    intro hw hh region h
    have hbounds := Comparer.changedRegion_bounds hw hh (hregion.symm.trans h)
    exact hbounds.within fun p hp => hp.lt
  case verdict_iff =>
    rw [verdict_compared, Action.verdict_eq hc]
    exact iff_of_false (fun h => by cases h) hc

/-- **What is told of images of two sizes**: that they are, and nothing was compared. -/
theorem wellFormed_invalidBaseline (hc : c.action ≠ .establish) (now : Instant)
    (hd : checkpoint.dimensions ≠ baseline.dimensions) (reason : String) (tolerance : UInt8) :
    (invalidBaseline c now checkpoint baseline reason).WellFormed c tolerance := by
  constructor
  case checkId_eq | baselineName_eq | action_eq => rfl
  case found_iff => exact iff_of_true rfl ⟨baseline, rfl⟩
  case diff_iff => exact iff_of_false (by rintro ⟨_, ⟨⟩⟩) (by rintro ⟨_, ⟨⟩⟩)
  case compared =>
    intro _ hsome
    cases hsome
  case failure_iff => exact iff_of_true ⟨reason, rfl⟩ ⟨hc, baseline, rfl, hd.symm⟩
  case incomparable => exact fun _ _ => ⟨rfl, rfl⟩
  case changed_iff => exact iff_of_false (by rintro ⟨_, ⟨⟩⟩) (by rintro ⟨_, _, ⟨⟩, -⟩)
  case changed_within =>
    intro _ _ _ hsome
    cases hsome
  case verdict_iff => exact iff_of_false (by simp [verdict, invalidBaseline, established, hc]) hc

end CheckResult

namespace Engine

open CheckProgram CheckResult

section WellFormed

variable {σ : Type} {parties : Collaborators σ} {s s' : Shared σ} {e : Engine} {now : Instant}
  {c : Check} {r : CheckResult}

/-- What a judgement comes to is well-formed. -/
theorem judge_wellFormed {checkpoint baseline : Image} {percentage : UInt8}
    (hc : c.action ≠ .establish)
    (h : e.judge now c checkpoint baseline percentage = .ok r) :
    r.WellFormed c e.policy.tolerance := by
  obtain ⟨found, hfound, rfl⟩ | ⟨hd, rfl⟩ := judge_cases h
  · exact wellFormed_compared hc now hfound
  · exact wellFormed_invalidBaseline hc now hd _ _

/-- **Every result is well-formed**, whatever the engine, the parties and what they remember. -/
theorem execute_wellFormed (h : perform parties (e.execute now c) s = (some (.ok r), s')) :
    r.WellFormed c e.policy.tolerance := by
  by_cases hc : c.action = .establish
  · rw [execute_of_establish hc] at h
    obtain ⟨-, checkpoint, s₁, -, -, rfl, -⟩ := perform_establish_ok.1 h
    exact wellFormed_established (.inl hc) now checkpoint _
  · rw [execute_of_ne_establish hc] at h
    obtain ⟨-, percentage, -, checkpoint, s₁, -, -, hr⟩ := perform_compareWithBaseline_ok.1 h
    obtain ⟨-, rfl⟩ | ⟨baseline, -, hjudge⟩ := hr
    · exact wellFormed_established (.inr rfl) now checkpoint _
    · exact judge_wellFormed hc hjudge

end WellFormed

open HalfDiffers in
/-- One of two pixels differs: an image is painted, and the region is that pixel. -/
theorem execute_wellFormed_half_differs :
    ∃ r s', perform parties (({} : Engine).execute ⟨0, 0⟩ check) shared = (some (.ok r), s') ∧
      r.WellFormed check ({} : Engine).policy.tolerance ∧
      (∃ markup, r.diff = some markup) ∧ ∃ region, r.changedRegion = some region ∧
        region.x = 1 ∧ region.Within r.checkpoint := by
  obtain ⟨r, s', h, hregion⟩ : ∃ r s',
      perform parties (({} : Engine).execute ⟨0, 0⟩ check) shared = (some (.ok r), s') ∧
        ∃ region, r.changedRegion = some region ∧ region.x = 1 ∧ r.checkpoint.dimensions = (2, 1) :=
    ⟨_, _, rfl, _, rfl, rfl, rfl⟩
  obtain ⟨region, hregion, hx, hd⟩ := hregion
  have hr := execute_wellFormed h
  obtain ⟨hw, hh⟩ := Prod.mk.inj hd
  obtain ⟨markup, -, hmarkup, -⟩ := hr.changed_iff.1 ⟨region, hregion⟩
  exact ⟨r, s', h, hr, ⟨markup, hmarkup⟩, region, hregion, hx,
    hr.changed_within (by rw [hw]; decide) (by rw [hh]; decide) region hregion⟩

end Engine

end VisualRegression
