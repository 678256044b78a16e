import VisualRegression.Proofs.Raster.Assembly
import VisualRegression.Proofs.Raster.Comparison
import VisualRegression.Proofs.Raster.Masking

/-!
# From captured bytes to a comparison

All that is done to the pixels of a check: bytes are taken for images, tiles are scaled, cut and put
together, the regions to ignore are filled, and the image is compared with its baseline.  Each of
these stages is untrapped on the rasters of images and passes on the raster of an image, so that the
whole is.  Main statement: `run_untrapped`.
-/

namespace VisualRegression

/-- The treatment of the pixels of a check. -/
structure Pipeline where
  assembly : Assembly
  maskColor : Pixel
  ignores : IgnoreMap
  topAdjustment : Int32
  comparer : Comparer
  percentage : UInt8

namespace Pipeline

/-- What the comparison of the images comes to that the bytes are. -/
def run (p : Pipeline) (tiles : List Raster) (baseline : Raster) :
    Except CaptureFault Difference := do
  let tiles ← tiles.mapM Raster.image
  let baseline ← baseline.image
  let img ← p.assembly.assemble tiles
  p.comparer.compare (Mask.apply p.maskColor img p.ignores p.topAdjustment).1 baseline p.percentage

/-- The same on the bytes themselves. -/
def runBytes (p : Pipeline) (tiles : List Raster) (baseline : Raster) :
    Checked RasterDifference := do
  let tiles ← tiles.mapM Raster.accept
  let baseline ← baseline.accept
  let img ← p.assembly.assembleBytes tiles
  let masked ← img.mask p.maskColor p.ignores p.topAdjustment
  Raster.compare p.comparer masked baseline p.percentage

/-- The stages after each other are untrapped, and come to what they come to on images. -/
theorem runBytes_eq_of {p : Pipeline} {tiles : List Raster} {baseline : Raster}
    (hbuffers : ∀ r ∈ baseline :: tiles, Raster.byteCount r.width r.height < 2 ^ 64)
    (hrange : ∀ images img, tiles.mapM Raster.image = .ok images →
      p.assembly.assemble images = .ok img → img.InRange) :
    p.runBytes tiles baseline = .of ((p.run tiles baseline).map Difference.toRaster) := by
  have haccepted : (tiles.map id).mapM Raster.accept =
      .of ((tiles.mapM Raster.image).map (List.map Image.toRaster)) :=
    Checked.mapM_eq_of tiles fun r hr =>
      Raster.accept_of_lt (hbuffers r (List.mem_cons_of_mem _ hr))
  rw [List.map_id] at haccepted
  unfold runBytes run
  rw [haccepted]
  rcases himages : tiles.mapM Raster.image with fault | images
  · rfl
  rw [Raster.accept_of_lt (hbuffers baseline List.mem_cons_self)]
  rcases baseline.image with fault | base
  · rfl
  have hassembled : p.assembly.assembleBytes (images.map Image.toRaster) =
      .of ((p.assembly.assemble images).map Image.toRaster) := by
    refine p.assembly.assembleBytes_toRaster (fun tile htile => ?_)
      fun img himg => (hrange images img himages himg).byteCount_lt
    -- a tile has the size of the bytes that it was taken from
    obtain ⟨r, hr, himage⟩ := exists_mem_of_mapM_eq_ok himages htile
    have hsize := hbuffers r (List.mem_cons_of_mem _ hr)
    rw [Raster.eq_toRaster_of_image himage] at hsize
    exact hsize
  change (p.assembly.assembleBytes (images.map Image.toRaster) >>= _) =
    Checked.of ((p.assembly.assemble images >>= _).map _)
  rw [hassembled]
  rcases himg : p.assembly.assemble images with fault | img
  · rfl
  have hinRange : img.InRange := hrange images img himages himg
  have hmasked : img.toRaster.mask p.maskColor p.ignores p.topAdjustment =
      .ok (Mask.apply p.maskColor img p.ignores p.topAdjustment).1.toRaster :=
    Image.mask_toRaster hinRange
  change (img.toRaster.mask p.maskColor p.ignores p.topAdjustment >>= _) = _
  rw [hmasked]
  -- masking leaves the sides of an image as they are
  have hfills := Mask.fills_apply p.maskColor img p.ignores p.topAdjustment
  exact Image.compare_toRaster p.comparer _ base p.percentage
    (hinRange.of_sides_eq hfills.width_eq hfills.height_eq)

/-- **Nothing that is done to the pixels of a check is trapped**: bytes are taken for an image
exactly where there are four for each position, and from there on no position outside of an image is
read or written, no difference falls below zero, no rectangle is filled that has no pixel or is not
inside, and no image is passed on whose bytes do not fit it.  What comes of it is what comes of it
on images, or the same fault.  All this holds whatever sizes and positions are computed for the
scaling; with those of a plan's scaling the images are the ones that the plan puts together. -/
theorem run_untrapped (p : Pipeline) (tiles : List Raster) (baseline : Raster)
    (hbuffers : ∀ r ∈ baseline :: tiles, Raster.byteCount r.width r.height < 2 ^ 64)
    (hrange : ∀ images img, tiles.mapM Raster.image = .ok images →
      p.assembly.assemble images = .ok img → img.InRange) :
    (∀ r ∈ baseline :: tiles, (r.IsWhole → r.accept = .ok r) ∧
      (¬ r.IsWhole →
        r.accept = .error (.fault (.value (.image ⟨r.width, r.height, r.bytes.length⟩))))) ∧
    (∀ trap, p.runBytes tiles baseline ≠ .error (.trap trap)) ∧
    p.runBytes tiles baseline = .of ((p.run tiles baseline).map Difference.toRaster) ∧
    (∀ found, p.runBytes tiles baseline = .ok found → found.markup.IsWhole) ∧
    ∀ plan : CapturePlan, p.assembly.sampling = .ofScaling plan.scaling →
      p.assembly.cut = plan.cut → p.assembly.layout.stitcher = plan.stitcher →
        ∀ images, p.assembly.assemble images = plan.assemble images := by
  have hrun := runBytes_eq_of hbuffers hrange
  refine ⟨fun r hr => ⟨fun hwhole => ?_, fun hodd => ?_⟩, fun trap => ?_, hrun, fun found h => ?_,
    fun plan hsampling hcut hlayout images => Assembly.assemble_of_plan hsampling hcut hlayout⟩
  · obtain ⟨img, himg, hr'⟩ := Raster.image_of_isWhole hwhole
    rw [Raster.accept_of_lt (hbuffers r hr), himg, hr']
    rfl
  · rw [Raster.accept_of_lt (hbuffers r hr), Raster.image_of_not_isWhole hodd]
    rfl
  · rw [hrun]
    exact Checked.of_ne_trap _ _
  · rw [hrun] at h
    obtain ⟨difference, -, rfl⟩ := map_eq_ok.1 (Checked.of_eq_ok h)
    exact difference.markup.isWhole_toRaster

namespace OutOfBounds

/-- Every position of a tile is computed far outside of it, one region reaches as far beyond the
image as it can, and a header is cut off. -/
def pipeline : Pipeline where
  assembly := ⟨⟨2, some, fun _ => 4294967295⟩, ⟨1, 0⟩, .fullPage⟩
  maskColor := ⟨0, 0, 0, 255⟩
  ignores := ⟨some ⟨[⟨-2147483648, -2147483648, 4294967295, 4294967295⟩], by simp⟩, none⟩
  topAdjustment := 1
  comparer := {}
  percentage := 0

/-- Two tiles of one column, and one of five that has no row. -/
def tiles : List Raster :=
  [⟨1, 2, [1, 2, 3, 255, 4, 5, 6, 255]⟩, ⟨5, 0, []⟩, ⟨1, 2, [7, 8, 9, 255, 10, 11, 12, 255]⟩]

/-- What remains of the tiles, filled. -/
def baseline : Raster := ⟨1, 2, [0, 0, 0, 255, 0, 0, 0, 255]⟩

end OutOfBounds

open OutOfBounds in
/-- Positions and regions outside of the images come to no harm. -/
theorem run_untrapped_out_of_bounds :
    ∃ found, pipeline.runBytes tiles baseline = .ok found ∧ found.differing = 0 ∧
      found.markup = baseline ∧ found.markup.IsWhole := by
  have hassembled : ∃ images img, tiles.mapM Raster.image = .ok images ∧
      pipeline.assembly.assemble images = .ok img ∧ img.InRange :=
    ⟨[⟨1, 2, #[⟨1, 2, 3, 255⟩, ⟨4, 5, 6, 255⟩], rfl⟩, ⟨5, 0, #[], rfl⟩,
        ⟨1, 2, #[⟨7, 8, 9, 255⟩, ⟨10, 11, 12, 255⟩], rfl⟩],
      ⟨1, 2, #[⟨4, 5, 6, 255⟩, ⟨10, 11, 12, 255⟩], rfl⟩, rfl, rfl, by decide, by decide, by decide⟩
  obtain ⟨images, img, himages, himg, hinRange⟩ := hassembled
  obtain ⟨-, -, hrun, hwhole, -⟩ := run_untrapped pipeline tiles baseline (by decide)
    fun images' img' himages' himg' => by
      cases himages'.symm.trans himages
      cases himg'.symm.trans himg
      exact hinRange
  have hfound : ∃ found, pipeline.run tiles baseline = .ok found ∧ found.differing = 0 ∧
      found.markup.toRaster = baseline := ⟨_, rfl, rfl, rfl⟩
  obtain ⟨found, hok, hnone, hmarkup⟩ := hfound
  rw [hok] at hrun
  exact ⟨found.toRaster, hrun, hnone, hmarkup, hwhole _ hrun⟩

end Pipeline

end VisualRegression
