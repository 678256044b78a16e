import VisualRegression.Capture.Plan
import VisualRegression.Proofs.Capture.Stacking
import VisualRegression.Proofs.Failing
import VisualRegression.Proofs.Image

/-!
# The image of a whole page

A plan for a whole page scales each tile, cuts its header and footer off and puts what remains below
each other.  `Cut.remains` names the rows of a tile that remain, and `assembles_full_page` says that
the assembled image consists of these rows and no others, or that there is none.  A plan that cuts
nothing off leaves the cutting out, which `assembleBy_stages` shows to make no difference.
-/

namespace VisualRegression

namespace Image

variable {img : Image} {first last : Nat}

/-- The rows of an image from `first` up to, and without, `last`. -/
def band (img : Image) (first last : Nat) : Image :=
  ofFn img.width (UInt32.ofNat (last - first)) fun x y =>
    (img.get? x (first + y)).getD .transparent

theorem height_band (h : last ≤ img.height.toNat) :
    (img.band first last).height.toNat = last - first := by
  have := img.height.toNat_lt
  exact UInt32.toNat_ofNat_of_lt' (by simp only [UInt32.size]; omega)

/-- A row of the band is the row of the image that is as far below its first one. -/
theorem get?_band (h : last ≤ img.height.toNat) {x y : Nat} (hx : x < img.width.toNat)
    (hy : y < last - first) : (img.band first last).get? x y = img.get? x (first + y) := by
  have hy' : y < (img.band first last).height.toNat := (height_band h).symm ▸ hy
  rw [get?_eq_some (img.band first last) hx hy', get?_eq_some img hx (by omega)]
  refine congrArg some ((get_ofFn _ _ _ hx hy').trans ?_)
  rw [get?_eq_some img hx (by omega)]
  rfl

/-- All rows of an image are the image. -/
theorem band_all (img : Image) : img.band 0 img.height.toNat = img := by
  have hheight : (img.band 0 img.height.toNat).height.toNat = img.height.toNat :=
    height_band (Nat.le_refl _)
  refine ext_get? (Prod.ext rfl (UInt32.toNat_inj.1 hheight)) fun x y hx hy => ?_
  rw [hheight] at hy
  have hrow : (img.band 0 img.height.toNat).get? x y = img.get? x (0 + y) :=
    get?_band (Nat.le_refl _) hx hy
  rw [hrow, Nat.zero_add]

/-- Rows that are taken out are a band. -/
theorem rows_eq_band {top count : Nat} (h : top + count ≤ img.height.toNat) :
    img.rows top count h = img.band top (top + count) := by
  have hheight : (img.rows top count h).height.toNat = count := height_rows img h
  have hband : (img.band top (top + count)).height.toNat = count := by
    rw [height_band h, Nat.add_sub_cancel_left]
  refine ext_get? (Prod.ext rfl (UInt32.toNat_inj.1 (hheight.trans hband.symm))) fun x y hx hy => ?_
  rw [get?_eq_some _ hx hy, get_rows img h hx hy]
  rw [hheight] at hy
  have hrow : (img.band top (top + count)).get? x y = img.get? x (top + y) :=
    get?_band h hx (by omega)
  rw [hrow, get?_eq_some img hx (by omega)]

end Image

/-- **The rows of a tile that remain** once the header and then the footer are cut off, as far as
there are rows to cut off. -/
def Cut.remains (c : Cut) (tile : Image) : Image :=
  let height := tile.height.toNat
  tile.band (min c.header.toNat height)
    (height - min c.footer.toNat (height - min c.header.toNat height))

/-- What cutting leaves of a tile is what remains. -/
theorem Cut.apply_eq_remains (c : Cut) (tile : Image) : c.apply tile = c.remains tile := by
  have hlast : c.top tile.height.toNat + c.kept tile.height.toNat =
      tile.height.toNat - min c.footer.toNat
        (tile.height.toNat - min c.header.toNat tile.height.toNat) := by
    simp only [Cut.kept, Cut.top]
    omega
  have hremains : c.remains tile = tile.band (c.top tile.height.toNat)
      (c.top tile.height.toNat + c.kept tile.height.toNat) := by
    rw [hlast]
    rfl
  rw [hremains]
  simp only [apply]
  split
  · rename_i hall
    -- a tile that keeps all its rows loses none at the top
    have htop : c.top tile.height.toNat = 0 := by
      have := c.top_add_kept_le tile.height.toNat
      omega
    rw [hall, htop, Nat.zero_add, Image.band_all]
  · exact Image.rows_eq_band _

namespace CapturePlan

section WholePage

variable {plan : CapturePlan} {stitcher : Stitcher} {ratio : Float} {cut : Cut}
  {tiles scaled : List Image}

/-- The image that tiles make up if each goes through these steps first. -/
def assembleBy (plan : CapturePlan) (stages : List Stage) (tiles : List Image) :
    Except CaptureFault Image := do
  let tiles ← tiles.mapM fun tile => stages.foldlM (fun tile stage => stage.apply tile) tile
  plan.stitcher.stitch tiles

theorem compose_eq_ok (h : compose stitcher ratio cut = .ok plan) :
    plan.scaling.ratio = ratio ∧ plan.cut = cut ∧ plan.stitcher = stitcher := by
  obtain ⟨scaling, hscaling, h⟩ := bind_eq_ok.1 h
  cases h
  unfold Scaling.ofRatio at hscaling
  split at hscaling
  · cases hscaling
    exact ⟨rfl, rfl, rfl⟩
  · cases hscaling

/-- Scaling and cutting come to scaling, and cutting what it yields. -/
theorem foldlM_scaling_cutting (s : Scaling) (c : Cut) (tile : Image) :
    [Stage.scaling s, Stage.cutting c].foldlM (fun tile stage => stage.apply tile) tile =
      (s.apply tile).map c.apply := by
  simp only [List.foldlM_cons, List.foldlM_nil, Stage.apply]
  rcases s.apply tile with _ | scaled <;> rfl

/-- To cut nothing off leaves a tile as it is. -/
theorem apply_of_nothing {c : Cut} (h : ¬ c.header.toNat + c.footer.toNat > 0) (tile : Image) :
    c.apply tile = tile := by
  have hkept : c.kept tile.height.toNat = tile.height.toNat := by
    simp only [Cut.kept, Cut.top]
    omega
  exact if_pos hkept

/-- **A tile is prepared by scaling and cutting**, also where the cutting is left out. -/
theorem prepare_eq_map (plan : CapturePlan) (tile : Image) :
    plan.prepare tile = (plan.scaling.apply tile).map plan.cut.apply := by
  unfold prepare stages
  split
  · exact foldlM_scaling_cutting _ _ _
  · rename_i hnothing
    simp only [List.foldlM_cons, List.foldlM_nil, Stage.apply]
    rcases plan.scaling.apply tile with fault | scaled
    · rfl
    · exact congrArg Except.ok (apply_of_nothing hnothing scaled).symm

/-- **That cutting is left out makes no difference** to what any tiles are assembled to. -/
theorem assembleBy_stages (plan : CapturePlan) (tiles : List Image) :
    plan.assembleBy [.scaling plan.scaling, .cutting plan.cut] tiles = plan.assemble tiles := by
  unfold assembleBy assemble
  simp only [foldlM_scaling_cutting, funext plan.prepare_eq_map]

/-- Tiles that can be scaled are prepared to what remains of them. -/
theorem assemble_of_scaled
    (hscaled : List.Forall₂ (fun tile s => plan.scaling.apply tile = .ok s) tiles scaled) :
    plan.assemble tiles = plan.stitcher.stitch (scaled.map plan.cut.remains) := by
  have hprepared : tiles.mapM plan.prepare = .ok (scaled.map plan.cut.remains) := by
    refine mapM_eq_ok.2 (List.forall₂_map_right_iff.2 (hscaled.imp fun tile s hs => ?_))
    rw [prepare_eq_map, hs, ← Cut.apply_eq_remains]
    rfl
  unfold assemble
  rw [hprepared]
  rfl

/-- **What tiles of a whole page are assembled to.**  If there are two or more and all of them can
be scaled, there is an image exactly if what remains of them and has pixels can be put below each
other; it consists of these rows, tile after tile, and where there is none the tiles do not fit
together.  Of a single tile there is what remains, and without a tile there is nothing.  All this is
the same if tiles are cut even where there is nothing to cut off. -/
theorem assembles_full_page (hplan : compose .fullPage ratio cut = .ok plan)
    (hscaled : List.Forall₂ (fun tile s => plan.scaling.apply tile = .ok s) tiles scaled) :
    (2 ≤ tiles.length →
      ((∃ img, plan.assemble tiles = .ok img) ↔
        Image.Stackable ((scaled.map cut.remains).filter fun r => !r.isEmpty)) ∧
      (∀ img, plan.assemble tiles = .ok img →
        img.StackOf ((scaled.map cut.remains).filter fun r => !r.isEmpty)) ∧
      ∀ fault, plan.assemble tiles = .error fault → ∃ cause, fault = .stitch cause) ∧
    (∀ s, scaled = [s] → plan.assemble tiles = .ok (cut.remains s)) ∧
    (tiles = [] → ∃ cause, plan.assemble tiles = .error (.stitch cause)) ∧
    (cut = ⟨0, 0⟩ → plan.stages = [.scaling plan.scaling]) ∧
    ∀ others, plan.assembleBy [.scaling plan.scaling, .cutting cut] others =
      plan.assemble others := by
  obtain ⟨-, rfl, hstitcher⟩ := compose_eq_ok hplan
  have hassemble := assemble_of_scaled hscaled
  rw [hstitcher] at hassemble
  refine ⟨fun htwo => ?_, ?_, ?_, ?_, plan.assembleBy_stages⟩
  · have hlength : 2 ≤ (scaled.map plan.cut.remains).length := by
      rw [List.length_map, ← hscaled.length_eq]
      exact htwo
    have hstack : plan.assemble tiles =
        Stitcher.stackTiles ((scaled.map plan.cut.remains).filter fun r => !r.isEmpty) :=
      hassemble.trans (Stitcher.allTiles_of_two_le hlength)
    rw [hstack]
    by_cases hfit : Image.Stackable ((scaled.map plan.cut.remains).filter fun r => !r.isEmpty)
    · obtain ⟨img, himg, hof⟩ := Stitcher.stackTiles_of_stackable hfit
      rw [himg]
      refine ⟨⟨fun _ => hfit, fun _ => ⟨img, rfl⟩⟩, ?_, ?_⟩
      · rintro _ ⟨⟩
        exact hof
      · rintro _ ⟨⟩
    · obtain ⟨cause, hcause⟩ := Stitcher.stackTiles_of_not_stackable hfit
      rw [hcause]
      refine ⟨⟨?_, fun h => absurd h hfit⟩, ?_, ?_⟩
      · rintro ⟨_, ⟨⟩⟩
      · rintro _ ⟨⟩
      · rintro _ ⟨⟩
        exact ⟨cause, rfl⟩
  · rintro s rfl
    exact hassemble
  · rintro rfl
    cases hscaled
    exact ⟨.noTiles, hassemble⟩
  · intro hnothing
    unfold stages
    rw [hnothing]
    rfl

end WholePage

namespace ThreeTiles

/-- A grey pixel. -/
def grey (n : UInt8) : Pixel := ⟨n, n, n, 255⟩

/-- The first tile of a page of one column. -/
def first : Image := ⟨1, 3, #[grey 0, grey 1, grey 0], rfl⟩

/-- A tile of another width that is all header and footer. -/
def second : Image := ⟨5, 2, #[grey 0, grey 0, grey 0, grey 0, grey 0, grey 0, grey 0, grey 0,
  grey 0, grey 0], rfl⟩

/-- The last tile of the page. -/
def third : Image := ⟨1, 4, #[grey 0, grey 2, grey 3, grey 0], rfl⟩

/-- A plan for a whole page that cuts off the first and the last row of each tile. -/
def plan : CapturePlan := ⟨⟨1, rfl⟩, ⟨1, 1⟩, .fullPage⟩

/-- What remains of the tiles and has pixels. -/
def parts : List Image := [⟨1, 1, #[grey 1], rfl⟩, ⟨1, 2, #[grey 2, grey 3], rfl⟩]

theorem remains_eq : ([first, second, third].map (Cut.remains ⟨1, 1⟩)).filter
    (fun r => !r.isEmpty) = parts := rfl

end ThreeTiles

open ThreeTiles in
/-- The tile of another width is left out, since nothing remains of it. -/
theorem assembles_full_page_three_tiles :
    ∃ img, plan.assemble [first, second, third] = .ok img ∧
      img.pixels.toList = [grey 1, grey 2, grey 3] ∧ img.width = 1 ∧ img.height.toNat = 3 := by
  have hscaled : List.Forall₂ (fun tile s => plan.scaling.apply tile = .ok s)
      [first, second, third] [first, second, third] := .cons rfl (.cons rfl (.cons rfl .nil))
  have hplan : compose .fullPage 1 ⟨1, 1⟩ = .ok plan := rfl
  obtain ⟨hiff, hstack, -⟩ := (assembles_full_page hplan hscaled).1 (by decide)
  rw [remains_eq] at hiff hstack
  obtain ⟨img, himg⟩ := hiff.2 ⟨by decide, by decide⟩
  have hof := hstack img himg
  exact ⟨img, himg, hof.pixels_eq.trans rfl, hof.width_eq _ List.mem_cons_self,
    hof.height_eq.trans rfl⟩

end CapturePlan

end VisualRegression
