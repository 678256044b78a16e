import VisualRegression.Proofs.Capture.Assembly
import VisualRegression.Proofs.Capture.Scaling

/-!
# The image of what is visible

A plan for what is visible takes the first tile.  But every tile is scaled before the others are
left out, so these still have a say: they must be such that they can be scaled.  Main statement:
`assembles_viewport`.
-/

namespace VisualRegression.CapturePlan

section Viewport

variable {plan : CapturePlan} {ratio : Float} {cut : Cut} {tile odd : Image}
  {tiles rest before after : List Image}

/-! ## Tiles that fit -/

/-- A tile that can be scaled is prepared. -/
theorem prepare_eq_ok_iff_fits : (∃ t, plan.prepare tile = .ok t) ↔ plan.scaling.Fits tile := by
  rw [← Scaling.apply_eq_ok_iff_fits, prepare_eq_map]
  constructor
  · rintro ⟨t, ht⟩
    obtain ⟨scaled, hscaled, -⟩ := map_eq_ok.1 ht
    exact ⟨scaled, hscaled⟩
  · rintro ⟨scaled, hscaled⟩
    exact ⟨_, map_eq_ok.2 ⟨scaled, hscaled, rfl⟩⟩

theorem prepare_of_not_fits (h : ¬ plan.scaling.Fits tile) :
    plan.prepare tile =
      .error (.setting (.ratioTooFine plan.scaling.ratio tile.width tile.height)) := by
  rw [prepare_eq_map, Scaling.apply_of_not_fits h]
  rfl

/-- **The first tile that does not fit decides**, whatever the stitcher. -/
theorem assemble_of_not_fits (hbefore : ∀ t ∈ before, plan.scaling.Fits t)
    (hodd : ¬ plan.scaling.Fits odd) :
    plan.assemble (before ++ odd :: after) =
      .error (.setting (.ratioTooFine plan.scaling.ratio odd.width odd.height)) := by
  unfold assemble
  rw [mapM_eq_error_of_first (fun t ht => prepare_eq_ok_iff_fits.2 (hbefore t ht))
    (prepare_of_not_fits hodd)]
  rfl

/-- An image is assembled only of tiles that fit. -/
theorem fits_of_assemble {img : Image} (h : plan.assemble tiles = .ok img) :
    ∀ t ∈ tiles, plan.scaling.Fits t := by
  obtain ⟨prepared, hprepared, -⟩ := bind_eq_ok.1 h
  exact fun t ht => prepare_eq_ok_iff_fits.1 (exists_of_mapM_eq_ok hprepared ht)

/-! ## The first tile -/

/-- **Of tiles that fit, the first one is taken.** -/
theorem assemble_viewport_of_fits (hplan : plan.stitcher = .viewport)
    (hrest : ∀ t ∈ rest, plan.scaling.Fits t) :
    plan.assemble (tile :: rest) = plan.prepare tile := by
  obtain ⟨prepared, hprepared⟩ :=
    exists_mapM_eq_ok fun t ht => prepare_eq_ok_iff_fits.2 (hrest t ht)
  unfold assemble
  rw [List.mapM_cons, hprepared, hplan]
  rcases plan.prepare tile with fault | t <;> rfl

theorem assemble_viewport_singleton (hplan : plan.stitcher = .viewport) (tile : Image) :
    plan.assemble [tile] = plan.prepare tile :=
  assemble_viewport_of_fits hplan fun _ ht => absurd ht List.not_mem_nil

/-- **What a plan for what is visible makes of tiles.**  The others do not change what the first one
comes to exactly if that is a fault, or if they fit all; the first one that does not fit is the one
that is refused. -/
theorem assembles_viewport (hplan : compose .viewport ratio cut = .ok plan) (tile : Image)
    (rest : List Image) :
    (plan.assemble (tile :: rest) = plan.assemble [tile] ↔
      (plan.scaling.Fits tile → ∀ t ∈ rest, plan.scaling.Fits t)) ∧
    ∀ before odd after, rest = before ++ odd :: after → plan.scaling.Fits tile →
      (∀ t ∈ before, plan.scaling.Fits t) → ¬ plan.scaling.Fits odd →
      plan.assemble (tile :: rest) =
        .error (.setting (.ratioTooFine ratio odd.width odd.height)) := by
  obtain ⟨hratio, -, hstitcher⟩ := compose_eq_ok hplan
  have halone := assemble_viewport_singleton hstitcher tile
  refine ⟨⟨fun hsame hfits => ?_, fun hrest => ?_⟩, ?_⟩
  · obtain ⟨img, himg⟩ := prepare_eq_ok_iff_fits.2 hfits
    have hall := fits_of_assemble (hsame.trans (halone.trans himg))
    exact fun t ht => hall t (List.mem_cons_of_mem _ ht)
  · -- where the first one fails, no other is looked at
    by_cases hfits : plan.scaling.Fits tile
    · rw [halone]
      exact assemble_viewport_of_fits hstitcher (hrest hfits)
    · have hnone : ∀ t ∈ ([] : List Image), plan.scaling.Fits t := fun _ ht =>
        absurd ht List.not_mem_nil
      have hfirst : ∀ after, plan.assemble ([] ++ tile :: after) = _ := fun _ =>
        assemble_of_not_fits hnone hfits
      exact (hfirst rest).trans (hfirst []).symm
  · rintro before odd after rfl hfits hbefore hodd
    rw [← hratio, ← List.cons_append]
    exact assemble_of_not_fits (List.forall_mem_cons.2 ⟨hfits, hbefore⟩) hodd

end Viewport

namespace FineRatio

/-- One pixel, which makes 128 logical ones on each side. -/
def dot : Image := .filled 1 1 ⟨16, 32, 48, 255⟩

/-- A tile with exactly as many logical pixels as there may be. -/
def square : Image := .filled 128 128 ⟨64, 80, 96, 255⟩

/-- A tile with one more column. -/
def wide : Image := .filled 129 128 ⟨64, 80, 96, 255⟩

/-- A plan with 128 logical pixels for each physical one. -/
def plan : CapturePlan := ⟨⟨0.0078125, rfl⟩, ⟨0, 0⟩, .viewport⟩

theorem compose_eq : compose .viewport 0.0078125 ⟨0, 0⟩ = .ok plan := rfl

theorem fits_dot : plan.scaling.Fits dot := .inr (.inr ⟨128, 128, rfl, rfl, by decide⟩)

theorem fits_square : plan.scaling.Fits square := .inr (.inr ⟨16384, 16384, rfl, rfl, by decide⟩)

theorem not_fits_wide : ¬ plan.scaling.Fits wide := by
  rintro (hone | hempty | ⟨w, h, hw, hh, hle⟩)
  · exact absurd hone (by decide)
  · exact absurd hempty (by decide)
  · have hwidth : plan.scaling.logical? wide.width = some 16512 := rfl
    have hheight : plan.scaling.logical? wide.height = some 16384 := rfl
    obtain rfl := Option.some.inj (hwidth.symm.trans hw)
    obtain rfl := Option.some.inj (hheight.symm.trans hh)
    exact absurd hle (by decide)

end FineRatio

open FineRatio in
/-- The tile that is too wide is not the one that is taken, and is refused nevertheless. -/
theorem assembles_viewport_fine_ratio :
    plan.assemble [dot, square] = plan.assemble [dot] ∧
      plan.assemble [dot, square, wide] = .error (.setting (.ratioTooFine 0.0078125 129 128)) := by
  refine ⟨(assembles_viewport compose_eq dot [square]).1.2 fun _ => ?_,
    (assembles_viewport compose_eq dot [square, wide]).2 [square] wide [] rfl fits_dot ?_
      not_fits_wide⟩
  · exact List.forall_mem_singleton.2 fits_square
  · exact List.forall_mem_singleton.2 fits_square

open FineRatio in
/-- A tile that is left out can make the difference between an image and a fault. -/
theorem assemble_viewport_heeds_others :
    ∃ p, compose .viewport 0.0078125 ⟨0, 0⟩ = .ok p ∧
      p.assemble [dot, wide] ≠ p.assemble [dot] := by
  refine ⟨plan, compose_eq, fun hsame => not_fits_wide ?_⟩
  obtain ⟨img, himg⟩ := prepare_eq_ok_iff_fits.2 fits_dot
  have halone : plan.assemble [dot] = .ok img := (assemble_viewport_singleton rfl dot).trans himg
  exact fits_of_assemble (hsame.trans halone) wide (by simp)

end VisualRegression.CapturePlan
