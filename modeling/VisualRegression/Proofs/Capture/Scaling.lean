import VisualRegression.Capture.Scaling
import VisualRegression.Proofs.Failing

/-!
# Which tiles can be scaled

Scaling leaves a tile as it is where there is nothing to do, and else refuses one whose logical size
is beyond the limit.  `Scaling.Fits` says which tiles these are: they depend on the ratio and on the
size of the tile, never on its pixels.  Main statements: `apply_eq_ok_iff_fits`,
`apply_of_not_fits`.
-/

namespace VisualRegression.Scaling

variable {s : Scaling} {width height w h : UInt32} {tile : Image}

/-- A logical size is told exactly where both sides have 32 bits and their product is within the
limit. -/
theorem logicalSize_eq_ok : s.logicalSize width height = .ok (w, h) ↔
    s.logical? width = some w ∧ s.logical? height = some h ∧
      w.toNat * h.toNat ≤ SettingFault.maxScaledPixels := by
  unfold logicalSize
  rcases s.logical? width with _ | w'
  · exact ⟨fun hok => (by cases hok), fun ⟨hw, _⟩ => (by cases hw)⟩
  rcases s.logical? height with _ | h'
  · exact ⟨fun hok => (by cases hok), fun ⟨_, hh, _⟩ => (by cases hh)⟩
  by_cases hle : w'.toNat * h'.toNat ≤ SettingFault.maxScaledPixels
  · simp only [if_pos hle]
    constructor
    · rintro ⟨⟩
      exact ⟨rfl, rfl, hle⟩
    · rintro ⟨⟨⟩, ⟨⟩, -⟩
      rfl
  · simp only [if_neg hle]
    constructor
    · rintro ⟨⟩
    · rintro ⟨⟨⟩, ⟨⟩, hle'⟩
      exact absurd hle' hle

/-- There is one fault of a logical size. -/
theorem logicalSize_eq_error {fault : CaptureFault}
    (hfault : s.logicalSize width height = .error fault) :
    fault = .setting (.ratioTooFine s.ratio width height) := by
  unfold logicalSize at hfault
  split at hfault
  · split at hfault <;> cases hfault
    rfl
  · cases hfault
    rfl

/-- The tile can be scaled: there is nothing to do, or its logical size is within the limit. -/
def Fits (s : Scaling) (tile : Image) : Prop :=
  (s.ratio == 1) = true ∨ tile.isEmpty = true ∨
    ∃ w h, s.logical? tile.width = some w ∧ s.logical? tile.height = some h ∧
      w.toNat * h.toNat ≤ SettingFault.maxScaledPixels

/-- **The tiles that fit are those that are scaled.** -/
theorem apply_eq_ok_iff_fits : (∃ scaled, s.apply tile = .ok scaled) ↔ s.Fits tile := by
  unfold apply Fits
  by_cases hone : (s.ratio == 1) = true
  · rw [if_pos hone]
    exact iff_of_true ⟨tile, rfl⟩ (.inl hone)
  by_cases hempty : tile.isEmpty = true
  · rw [if_neg hone, dif_pos hempty]
    exact iff_of_true ⟨tile, rfl⟩ (.inr (.inl hempty))
  rw [if_neg hone, dif_neg hempty, or_iff_right hone, or_iff_right hempty]
  simp only [← logicalSize_eq_ok]
  constructor
  · rintro ⟨scaled, hscaled⟩
    obtain ⟨⟨w, h⟩, hsize, -⟩ := bind_eq_ok.1 hscaled
    exact ⟨w, h, hsize⟩
  · rintro ⟨w, h, hsize⟩
    exact ⟨_, bind_eq_ok.2 ⟨(w, h), hsize, rfl⟩⟩

/-- **A tile that does not fit is refused** with the ratio and its size. -/
theorem apply_of_not_fits (hfits : ¬ s.Fits tile) :
    s.apply tile = .error (.setting (.ratioTooFine s.ratio tile.width tile.height)) := by
  rcases happly : s.apply tile with fault | scaled
  · unfold apply at happly
    split at happly
    · cases happly
    · split at happly
      · cases happly
      · rcases bind_eq_error.1 happly with hsize | ⟨_, _, hdone⟩
        · rw [logicalSize_eq_error hsize]
        · cases hdone
  · exact absurd (apply_eq_ok_iff_fits.1 ⟨scaled, happly⟩) hfits

end VisualRegression.Scaling
