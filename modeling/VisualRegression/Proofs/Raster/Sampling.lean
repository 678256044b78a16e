import VisualRegression.Proofs.Capture.Scaling
import VisualRegression.Proofs.Raster.Assembly

/-!
# What scaling makes of a tile

A tile that is scaled is sampled: each column of the scaled image is taken from one column of the
tile and each row from one row (`Image.SampledBy`).  `Sampling.Samples` says all that can come of a
tile, and it holds of every sampling, whatever sizes and positions it computes (`samples_apply`);
the numbers of a ratio enter only into the size and into the positions.

Main statement: `Scaling.apply_sampled`.
-/

namespace VisualRegression

/-- The image is sampled from a tile: what is in its column `x` is in one column of the tile, what
is in its row `y` is in one row, and both are inside of the tile. -/
structure Image.SampledBy (scaled tile : Image) (position : Nat → UInt32) : Prop where
  column_lt : ∀ x, min (position x).toNat (tile.width.toNat - 1) < tile.width.toNat
  row_lt : ∀ y, min (position y).toNat (tile.height.toNat - 1) < tile.height.toNat
  get?_eq : ∀ x y, x < scaled.width.toNat → y < scaled.height.toNat →
    scaled.get? x y =
      tile.get? (min (position x).toNat (tile.width.toNat - 1))
        (min (position y).toNat (tile.height.toNat - 1))

/-- Each pixel of the image is a pixel of the tile. -/
theorem Image.SampledBy.exists_source {scaled tile : Image} {position : Nat → UInt32}
    (h : scaled.SampledBy tile position) {x y : Nat} {p : Pixel} (hp : scaled.get? x y = some p) :
    ∃ x' y', tile.get? x' y' = some p := by
  have hin : x < scaled.width.toNat ∧ y < scaled.height.toNat := by
    by_contra hout
    rw [get?_eq_none_iff.2 hout] at hp
    cases hp
  exact ⟨_, _, (h.get?_eq x y hin.1 hin.2).symm.trans hp⟩

/-! ## Any arithmetic -/

namespace Sampling

variable {tile scaled : Image}

/-- **What can come of a tile**: it is left as it is, it is refused for its logical size, or an
image of this size is sampled from it. -/
inductive Samples (σ : Sampling) (tile : Image) : Except CaptureFault Image → Prop
  /-- There is nothing to do. -/
  | unchanged (h : (σ.ratio == 1) = true ∨ tile.isEmpty = true) : Samples σ tile (.ok tile)
  | refused {fault : CaptureFault} (hone : (σ.ratio == 1) = false) (hempty : tile.isEmpty = false)
      (hsize : σ.logicalSize tile.width tile.height = .error fault) : Samples σ tile (.error fault)
  | sampled {scaled : Image} (hone : (σ.ratio == 1) = false) (hempty : tile.isEmpty = false)
      (hsize : σ.logicalSize tile.width tile.height = .ok scaled.dimensions)
      (hpixels : scaled.SampledBy tile σ.position) : Samples σ tile (.ok scaled)

/-- An image that is filled from the positions of a sampling is sampled from the tile. -/
theorem sampledBy_ofFn (σ : Sampling) (hempty : tile.isEmpty = false) (width height : UInt32) :
    (Image.ofFn width height fun x y =>
      (tile.get? (σ.source tile.width.toNat x) (σ.source tile.height.toNat y)).getD
        .transparent).SampledBy tile σ.position := by
  obtain ⟨hw, hh⟩ := Scaling.pos_of_not_isEmpty (Bool.eq_false_iff.1 hempty)
  refine ⟨fun x => σ.source_lt x hw, fun y => σ.source_lt y hh, fun x y hx hy => ?_⟩
  have hsource := Image.get?_eq_some tile (σ.source_lt x hw) (σ.source_lt y hh)
  rw [Image.get?_eq_some _ hx hy]
  refine (congrArg some (Image.get_ofFn width height _ hx hy)).trans ?_
  change some ((tile.get? (σ.source _ x) (σ.source _ y)).getD .transparent) =
    tile.get? (σ.source _ x) (σ.source _ y)
  rw [hsource, Option.getD_some]

/-- **Each tile comes to one of these**, whatever sizes and positions are computed. -/
theorem samples_apply (σ : Sampling) (tile : Image) : σ.Samples tile (σ.apply tile) := by
  unfold apply
  cases hone : σ.ratio == 1 with
  | true => exact .unchanged (.inl hone)
  | false =>
    cases hempty : tile.isEmpty with
    | true => exact .unchanged (.inr hempty)
    | false =>
      cases hsize : σ.logicalSize tile.width tile.height with
      | error fault => exact .refused hone hempty hsize
      | ok size => exact .sampled hone hempty hsize (σ.sampledBy_ofFn hempty size.1 size.2)

/-- No image beyond the limit is made of a tile. -/
theorem pixelCount_le (σ : Sampling) (hscaled : σ.apply tile = .ok scaled) :
    scaled = tile ∨ scaled.pixelCount ≤ SettingFault.maxScaledPixels := by
  have hsamples := σ.samples_apply tile
  rw [hscaled] at hsamples
  cases hsamples with
  | unchanged => exact .inl rfl
  | sampled _ _ hsize => exact .inr (le_of_logicalSize hsize)

end Sampling

/-! ## The arithmetic of a ratio -/

namespace Scaling

variable {s : Scaling} {ratio : Float} {width height w h : UInt32}

/-- How many logical pixels so many physical ones make up: their quotient with the ratio, without
its fraction. -/
def quotient (ratio : Float) (physical : UInt32) : Float := wholePart (physical.toFloat / ratio)

/-- The physical position for a logical one: their product with the ratio, without its fraction, or
the largest one of 32 bits. -/
def position (ratio : Float) (logical : Nat) : UInt32 :=
  (wholePart (Float.ofNat logical * ratio)).toUInt32

/-- The number is finite and at most the largest one of 32 bits. -/
def FitsWord (x : Float) : Prop := x.isFinite = true ∧ x ≤ UInt32.toFloat 0xFFFFFFFF

/-- Both sides have a logical size, and so many pixels may be made. -/
def Allowed (ratio : Float) (width height : UInt32) : Prop :=
  FitsWord (quotient ratio width) ∧ FitsWord (quotient ratio height) ∧
    (quotient ratio width).toUInt32.toNat * (quotient ratio height).toUInt32.toNat ≤ 2 ^ 28

theorem logical?_eq_some : s.logical? width = some w ↔
    FitsWord (quotient s.ratio width) ∧ (quotient s.ratio width).toUInt32 = w := by
  unfold logical? FitsWord
  rw [Option.ite_none_right_eq_some, Bool.and_eq_true, decide_eq_true_eq, Option.some.injEq]
  rfl

/-- The logical size is told exactly where it is allowed. -/
theorem logicalSize_eq_ok_iff_allowed : s.logicalSize width height = .ok (w, h) ↔
    Allowed s.ratio width height ∧ (quotient s.ratio width).toUInt32 = w ∧
      (quotient s.ratio height).toUInt32 = h := by
  rw [logicalSize_eq_ok, logical?_eq_some, logical?_eq_some]
  constructor
  · rintro ⟨⟨hw, rfl⟩, ⟨hh, rfl⟩, hle⟩
    exact ⟨⟨hw, hh, hle⟩, rfl, rfl⟩
  · rintro ⟨⟨hw, hh, hle⟩, rfl, rfl⟩
    exact ⟨⟨hw, rfl⟩, ⟨hh, rfl⟩, hle⟩

/-- Where it is not allowed there is one fault. -/
theorem logicalSize_eq_error_iff {fault : CaptureFault} :
    s.logicalSize width height = .error fault ↔
      ¬ Allowed s.ratio width height ∧ fault = .setting (.ratioTooFine s.ratio width height) := by
  constructor
  · intro hfault
    refine ⟨fun hallowed => ?_, logicalSize_eq_error hfault⟩
    rw [logicalSize_eq_ok_iff_allowed.2 ⟨hallowed, rfl, rfl⟩] at hfault
    cases hfault
  · rintro ⟨hrefused, rfl⟩
    cases hsize : s.logicalSize width height with
    | error fault => rw [logicalSize_eq_error hsize]
    | ok size => exact absurd (logicalSize_eq_ok_iff_allowed.1 hsize).1 hrefused

theorem ratio_of_ofRatio (hs : ofRatio ratio = .ok s) : s.ratio = ratio := by
  unfold ofRatio at hs
  split at hs <;> cases hs
  rfl

/-- Where there is nothing to do, nothing is done. -/
theorem apply_eq_self {tile : Image} (h : (s.ratio == 1) = true ∨ tile.isEmpty = true) :
    s.apply tile = .ok tile := by
  unfold apply
  split
  · rfl
  · rename_i hone
    exact dif_pos (h.resolve_left hone)

/-- **What scaling makes of a tile**, for each ratio that is accepted.  A ratio of one and a tile
without pixels change nothing.  Else the tile is refused with the ratio and its size exactly if its
logical size is, which is so exactly if a side has none or if more pixels would be made than may be;
and if it is not refused, an image of the logical size is sampled from it.  On bytes nothing is read
out of range and no larger image is built, whatever sizes and positions are computed in place of
those of a ratio. -/
theorem apply_sampled (hs : ofRatio ratio = .ok s) (tile : Image) :
    ((ratio == 1) = true ∨ tile.isEmpty = true → s.apply tile = .ok tile) ∧
    ((ratio == 1) = false → tile.isEmpty = false →
      match s.logicalSize tile.width tile.height with
      | .error fault =>
        s.apply tile = .error fault ∧
          fault = .setting (.ratioTooFine ratio tile.width tile.height) ∧
          ¬ Allowed ratio tile.width tile.height
      | .ok size =>
        Allowed ratio tile.width tile.height ∧
          size = ((quotient ratio tile.width).toUInt32, (quotient ratio tile.height).toUInt32) ∧
          ∃ scaled, s.apply tile = .ok scaled ∧ scaled.dimensions = size ∧
            scaled.pixelCount ≤ 2 ^ 28 ∧ scaled.SampledBy tile (position ratio) ∧
            ∀ x y p, scaled.get? x y = some p → ∃ x' y', tile.get? x' y' = some p) ∧
    (Sampling.ofScaling s).apply tile = s.apply tile ∧
    ∀ σ : Sampling,
      Raster.scale σ tile.toRaster = .of ((σ.apply tile).map Image.toRaster) ∧
      σ.Samples tile (σ.apply tile) ∧
      ∀ scaled, σ.apply tile = .ok scaled → scaled = tile ∨ scaled.pixelCount ≤ 2 ^ 28 := by
  obtain rfl := ratio_of_ofRatio hs
  have happly := Sampling.apply_ofScaling s tile
  refine ⟨apply_eq_self, fun hone hempty => ?_, happly, fun σ =>
    ⟨Raster.scale_toRaster σ tile, σ.samples_apply tile, fun _ => σ.pixelCount_le⟩⟩
  have hsamples := (Sampling.ofScaling s).samples_apply tile
  rw [happly] at hsamples
  generalize houtcome : s.apply tile = outcome at hsamples
  cases hsamples with
  | unchanged hnothing =>
    rcases hnothing with hnothing | hnothing
    · exact absurd (hnothing.symm.trans hone) (by decide)
    · exact absurd (hnothing.symm.trans hempty) (by decide)
  | @refused fault _ _ hsize =>
    have hsize : s.logicalSize tile.width tile.height = .error fault := hsize
    obtain ⟨hrefused, hfault⟩ := logicalSize_eq_error_iff.1 hsize
    rw [hsize]
    exact ⟨rfl, hfault, hrefused⟩
  | @sampled scaled _ _ hsize hpixels =>
    have hsize : s.logicalSize tile.width tile.height = .ok (scaled.width, scaled.height) := hsize
    obtain ⟨hallowed, hwidth, hheight⟩ := logicalSize_eq_ok_iff_allowed.1 hsize
    obtain ⟨-, -, hle⟩ := logicalSize_eq_ok.1 hsize
    rw [hsize]
    exact ⟨hallowed, Prod.ext hwidth.symm hheight.symm, scaled, rfl, rfl, hle, hpixels,
      fun _ _ _ => hpixels.exists_source⟩

namespace HalfRatio

/-- Two pixels, one of each colour. -/
def tile : Image := ⟨2, 1, #[⟨16, 32, 48, 255⟩, ⟨64, 80, 96, 255⟩], rfl⟩

/-- Two logical pixels for each physical one on both sides. -/
def half : Scaling := ⟨0.5, rfl⟩

/-- The smallest ratio that is accepted. -/
def tiny : Scaling := ⟨Float.ofBits 1, rfl⟩

theorem ofRatio_half : ofRatio 0.5 = .ok half := rfl

theorem ofRatio_tiny : ofRatio (Float.ofBits 1) = .ok tiny := rfl

end HalfRatio

open HalfRatio in
/-- Each pixel is taken four times, and with the smallest ratio there is no logical size. -/
theorem apply_sampled_half :
    (∃ scaled, half.apply tile = .ok scaled ∧ scaled.dimensions = (4, 2) ∧
      scaled.get? 3 1 = some ⟨64, 80, 96, 255⟩) ∧
    tiny.apply tile = .error (.setting (.ratioTooFine (Float.ofBits 1) 2 1)) := by
  constructor
  · have hwork := (apply_sampled ofRatio_half tile).2.1 (by decide) rfl
    have hsize : half.logicalSize tile.width tile.height = .ok (4, 2) := rfl
    rw [hsize] at hwork
    obtain ⟨-, -, scaled, hscaled, hdimensions, -, hpixels, -⟩ := hwork
    obtain ⟨hwidth, hheight⟩ := Prod.mk.inj hdimensions
    refine ⟨scaled, hscaled, hdimensions, (hpixels.get?_eq 3 1 ?_ ?_).trans (by decide)⟩
    · rw [hwidth]
      decide
    · rw [hheight]
      decide
  · have hwork := (apply_sampled ofRatio_tiny tile).2.1 (by decide) rfl
    have hsize : tiny.logicalSize tile.width tile.height =
        .error (.setting (.ratioTooFine (Float.ofBits 1) 2 1)) :=
      logicalSize_eq_error_iff.2 ⟨fun hallowed => absurd hallowed.1.1 (by decide), rfl⟩
    rw [hsize] at hwork
    exact hwork.1

end Scaling

end VisualRegression
