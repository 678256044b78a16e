import VisualRegression.Proofs.Difference.Outcome
import VisualRegression.Proofs.Raster.Drawing

/-!
# Comparing rasters

Two rasters are compared in one walk over their positions, which paints, counts and bounds the
differing ones as it goes.  Main statement: `Image.compare_toRaster` says that the walk stays inside
of both, that the rectangle around the differing positions has sides to be told, and that all comes
to what `Comparer.compare` says of the images.
-/

namespace VisualRegression

/-- What a comparison of rasters found. -/
structure RasterDifference where
  differing : Nat
  percentage : Float
  trigger : Nat
  passed : Bool
  markup : Raster
  changedRegion : Option Rect

/-- What a comparison found, in memory. -/
def Difference.toRaster (found : Difference) : RasterDifference where
  differing := found.differing
  percentage := found.percentage
  trigger := found.trigger
  passed := found.passed
  markup := found.markup.toRaster
  changedRegion := found.changedRegion

/-! ## The box around the differing positions -/

namespace Box

variable {b : Box} {ps : List (Nat × Nat)}

/-- The box, if there is one, stretched to hold a position. -/
def include? (b : Option Box) (p : Nat × Nat) : Option Box :=
  some (match b with
    | none => single p
    | some b => b.extend p)

theorem foldl_include? (ps : List (Nat × Nat)) : ps.foldl include? none = around ps := by
  have hsome (b : Box) (ps : List (Nat × Nat)) :
      ps.foldl include? (some b) = some (ps.foldl extend b) := by
    induction ps generalizing b with
    | nil => rfl
    | cons p rest ih => exact ih (b.extend p)
  cases ps with
  | nil => rfl
  | cons p rest => exact hsome (single p) rest

/-- The box as a rectangle, each of its numbers in the range of its type. -/
def checkedRect (b : Box) : Checked Rect := do
  let left ← Checked.below (2 ^ 31) b.left
  let top ← Checked.below (2 ^ 31) b.top
  let columns ← Checked.sub b.right b.left
  let rows ← Checked.sub b.bottom b.top
  let width ← Checked.below (2 ^ 32) (columns + 1)
  let height ← Checked.below (2 ^ 32) (rows + 1)
  return ⟨Int32.ofNat left, Int32.ofNat top, UInt32.ofNat width, UInt32.ofNat height⟩

/-- The rectangle of a box, if there is one. -/
def checkedRect? : Option Box → Checked (Option Rect)
  | none => .ok none
  | some b => do
    let r ← b.checkedRect
    return some r

/-- **The rectangle of a box around positions of 31 bits** can be told. -/
theorem checkedRect_of_around (h : around ps = some b)
    (hps : ∀ p ∈ ps, p.1 < 2 ^ 31 ∧ p.2 < 2 ^ 31) : b.checkedRect = .ok b.toRect := by
  have hframes := frames_around h
  obtain ⟨right, hright, hr⟩ := hframes.right_touched
  obtain ⟨bottom, hbottom, hb⟩ := hframes.bottom_touched
  have hcolumns := hframes.holds right hright
  have hrows := hframes.holds bottom hbottom
  have hx := (hps right hright).1
  have hy := (hps bottom hbottom).2
  unfold checkedRect
  rw [Checked.below_of_lt (by omega), ok_bind, Checked.below_of_lt (by omega), ok_bind,
    Checked.sub_of_le (by omega), ok_bind, Checked.sub_of_le (by omega), ok_bind,
    Checked.below_of_lt (by omega), ok_bind, Checked.below_of_lt (by omega), ok_bind]
  rfl

theorem checkedRect?_around (hps : ∀ p ∈ ps, p.1 < 2 ^ 31 ∧ p.2 < 2 ^ 31) :
    checkedRect? (around ps) = .ok ((around ps).map toRect) := by
  cases hbox : around ps with
  | none => rfl
  | some b =>
    simp only [checkedRect?, checkedRect_of_around hbox hps]
    rfl

end Box

/-! ## The walk -/

/-- What is known in the middle of a comparison. -/
structure Tally where
  markup : Raster
  differing : Nat
  box : Option Box

namespace Raster

/-- One more position compared. -/
def tallyAt (c : Comparer) (candidate baseline : Raster) (t : Tally) (p : Nat × Nat) :
    Checked Tally := do
  let a ← candidate.read p.1 p.2
  let b ← baseline.read p.1 p.2
  if a.differs c.tolerance b then do
    let markup ← t.markup.write p.1 p.2 c.color.toPixel
    return ⟨markup, t.differing + 1, Box.include? t.box p⟩
  else return t

/-- The number of pixels that may differ. -/
def trigger (width height : UInt32) (percentage : UInt8) : Checked Nat :=
  if percentage.toNat > 100 then .error (.fault (.setting (.percentageTooLarge percentage)))
  else do
    let product ← Checked.below (2 ^ 64) (height.toNat * width.toNat * percentage.toNat)
    return product / 100

/-- Compares a candidate with a baseline. -/
def compare (c : Comparer) (candidate baseline : Raster) (percentage : UInt8) :
    Checked RasterDifference :=
  if (candidate.width, candidate.height) ≠ (baseline.width, baseline.height) then
    .error (.fault (.sizeMismatch (baseline.width, baseline.height)
      (candidate.width, candidate.height)))
  else do
    let trigger ← trigger candidate.width candidate.height percentage
    let tally ← candidate.positions.foldlM (tallyAt c candidate baseline) ⟨candidate, 0, none⟩
    let changedRegion ← Box.checkedRect? tally.box
    let markup ← tally.markup.passOn
    return {
      differing := tally.differing
      percentage := Comparer.share tally.differing (candidate.width.toNat * candidate.height.toNat)
      trigger
      passed := !(Threshold.mk trigger).exceeded tally.differing
      markup
      changedRegion }

/-- The number of pixels that may differ is told where a hundred times the area has 64 bits. -/
theorem trigger_eq {width height : UInt32} (percentage : UInt8)
    (harea : 100 * (width.toNat * height.toNat) < 2 ^ 64) :
    trigger width height percentage =
      .of ((Threshold.ofPercentage width height percentage).map Threshold.trigger) := by
  unfold trigger Threshold.ofPercentage
  split
  · rfl
  · rename_i hpercentage
    have hproduct : height.toNat * width.toNat * percentage.toNat < 2 ^ 64 := by
      refine Nat.lt_of_le_of_lt (Nat.mul_le_mul_left _ (Nat.not_lt.1 hpercentage)) ?_
      rw [Nat.mul_comm, Nat.mul_comm height.toNat]
      exact harea
    rw [Checked.below_of_lt hproduct]
    rfl

end Raster

namespace Image

variable {candidate baseline : Image}

/-- **The walk is not trapped** where both images have a pixel: it paints, counts and bounds the
differing positions and no others. -/
theorem tally_toRaster (c : Comparer) (hdims : candidate.dimensions = baseline.dimensions)
    {positions : List (Nat × Nat)} (hinside : ∀ p ∈ positions, p ∈ candidate.positions)
    (markup : Image) (hmarkup : markup.dimensions = candidate.dimensions) (n : Nat)
    (box : Option Box) :
    positions.foldlM (Raster.tallyAt c candidate.toRaster baseline.toRaster)
        ⟨markup.toRaster, n, box⟩ =
      .ok ⟨(markup.redraw (positions.filter (c.differsAt candidate baseline))
          fun _ => c.color.toPixel).toRaster,
        n + (positions.filter (c.differsAt candidate baseline)).length,
        (positions.filter (c.differsAt candidate baseline)).foldl Box.include? box⟩ := by
  obtain ⟨hwidth, hheight⟩ := Prod.mk.inj hdims
  obtain ⟨hwidth', hheight'⟩ := Prod.mk.inj hmarkup
  induction positions generalizing markup n box with
  | nil =>
    rw [List.filter_nil, redraw_nil]
    rfl
  | cons p rest ih =>
    obtain ⟨hx, hy⟩ := mem_positions.1 (hinside p List.mem_cons_self)
    have hx' : p.1 < baseline.width.toNat := hwidth ▸ hx
    have hy' : p.2 < baseline.height.toNat := hheight ▸ hy
    have hdiffers : c.differsAt candidate baseline p =
        (candidate.get p.1 p.2 hx hy).differs c.tolerance (baseline.get p.1 p.2 hx' hy') := by
      unfold Comparer.differsAt
      rw [get?_eq_some candidate hx hy, get?_eq_some baseline hx' hy']
    have hwrite : markup.toRaster.write p.1 p.2 c.color.toPixel =
        .ok (markup.redraw [p] fun _ => c.color.toPixel).toRaster :=
      write_toRaster (hwidth' ▸ hx) (hheight' ▸ hy) fun _ => c.color.toPixel
    have hrest := fun q hq => hinside q (List.mem_cons_of_mem _ hq)
    rw [List.foldlM_cons, Raster.tallyAt, read_toRaster hx hy, ok_bind, read_toRaster hx' hy',
      ok_bind, ← hdiffers]
    cases hp : c.differsAt candidate baseline p with
    | false =>
      rw [List.filter_cons_of_neg (Bool.eq_false_iff.1 hp)]
      exact ih hrest markup hmarkup n box hwidth' hheight'
    | true =>
      have hih := ih hrest (markup.redraw [p] fun _ => c.color.toPixel) hmarkup (n + 1)
        (Box.include? box p) hwidth' hheight'
      rw [redraw_redraw, Nat.add_assoc, Nat.add_comm 1] at hih
      rw [List.filter_cons_of_pos hp, if_pos rfl, hwrite]
      exact hih

/-- The differing positions painted over are the markup of a comparison. -/
theorem redraw_differing (c : Comparer) (candidate baseline : Image) :
    candidate.redraw (c.differing candidate baseline) (fun _ => c.color.toPixel) =
      c.markup candidate baseline := by
  unfold redraw Comparer.markup
  congr 1
  funext x y p
  have hmem : (x, y) ∈ c.differing candidate baseline ↔
      c.differsAt candidate baseline (x, y) = true := by
    unfold Comparer.differing
    rw [List.mem_filter]
    exact and_iff_right_of_imp fun h => mem_positions.2 (Comparer.differsAt_iff.1 h).lt
  simp only [hmem]

/-- **Comparing is not trapped** where the numbers told of the candidate are in range. -/
theorem compare_toRaster (c : Comparer) (candidate baseline : Image) (percentage : UInt8)
    (hrange : candidate.InRange) :
    Raster.compare c candidate.toRaster baseline.toRaster percentage =
      .of ((c.compare candidate baseline percentage).map Difference.toRaster) := by
  unfold Raster.compare Comparer.compare
  by_cases hdims : candidate.dimensions = baseline.dimensions
  · have hpair : (candidate.toRaster.width, candidate.toRaster.height) =
        (baseline.toRaster.width, baseline.toRaster.height) := hdims
    have htrigger : Raster.trigger candidate.toRaster.width candidate.toRaster.height percentage =
        .of ((Threshold.ofPercentage candidate.width candidate.height percentage).map
          Threshold.trigger) := Raster.trigger_eq percentage hrange.area_lt
    rw [if_neg (not_not_intro hpair), if_neg (not_not_intro hdims), htrigger]
    rcases Threshold.ofPercentage candidate.width candidate.height percentage with fault | threshold
    · rfl
    · have hinside : ∀ p ∈ c.differing candidate baseline, p.1 < 2 ^ 31 ∧ p.2 < 2 ^ 31 := by
        intro p hp
        obtain ⟨hx, hy⟩ := mem_positions.1 (List.mem_of_mem_filter hp)
        exact ⟨Nat.lt_trans hx hrange.width_lt, Nat.lt_trans hy hrange.height_lt⟩
      have htally : candidate.toRaster.positions.foldlM
          (Raster.tallyAt c candidate.toRaster baseline.toRaster) ⟨candidate.toRaster, 0, none⟩ =
            .ok ⟨(c.markup candidate baseline).toRaster, (c.differing candidate baseline).length,
              Box.around (c.differing candidate baseline)⟩ := by
        have hwalk := tally_toRaster c hdims (fun p hp => hp) candidate rfl 0 none
        rw [Nat.zero_add, Box.foldl_include?] at hwalk
        exact redraw_differing c candidate baseline ▸ hwalk
      change (candidate.toRaster.positions.foldlM
        (Raster.tallyAt c candidate.toRaster baseline.toRaster) _ >>= _) = _
      rw [htally, ok_bind, Box.checkedRect?_around hinside, ok_bind, passOn_toRaster]
      rfl
  · have hpair : ¬ (candidate.toRaster.width, candidate.toRaster.height) =
        (baseline.toRaster.width, baseline.toRaster.height) := hdims
    rw [if_pos hpair, if_pos hdims]
    rfl

end Image

end VisualRegression
