import VisualRegression.Proofs.Capture.Assembly
import VisualRegression.Proofs.Raster.Stacking

/-!
# Assembling rasters

A capture brought to logical pixels, cut and put together on rasters.  What floating-point numbers
contribute to it are sizes and positions, and here these are any numbers of 32 bits: a `Sampling` is
a scaling of which nothing is known.  What keeps each read inside is the bound put on a position
after it is computed, and what keeps the cuts inside is their order.

Main statements: `Assembly.assembleBytes_toRaster` says that no assembly is trapped, and
`Assembly.assemble_of_plan` that with the sampling of a plan's scaling it is the assembly of the
plan.
-/

namespace VisualRegression

/-! ## Scaling with any arithmetic -/

/-- A scaling of which it is left open what sizes and positions it computes. -/
structure Sampling where
  ratio : Float
  /-- The number of logical pixels for a number of physical ones, if it fits 32 bits. -/
  logical? : UInt32 → Option UInt32
  /-- The physical position for a logical one, be it in the tile or not. -/
  position : Nat → UInt32

namespace Sampling

/-- What a scaling computes. -/
def ofScaling (s : Scaling) : Sampling where
  ratio := s.ratio
  logical? := s.logical?
  position n := (wholePart (Float.ofNat n * s.ratio)).toUInt32

/-- The position that is read for a logical one, among `limit` positions. -/
def source (s : Sampling) (limit n : Nat) : Nat := min (s.position n).toNat (limit - 1)

theorem source_lt (s : Sampling) {limit : Nat} (n : Nat) (h : 0 < limit) :
    s.source limit n < limit :=
  Nat.lt_of_le_of_lt (Nat.min_le_right _ _) (Nat.sub_lt h Nat.one_pos)

/-- The logical size of a tile, if it is within the limit. -/
def logicalSize (s : Sampling) (width height : UInt32) : Except CaptureFault (UInt32 × UInt32) :=
  let tooFine := .error (.setting (.ratioTooFine s.ratio width height))
  match s.logical? width, s.logical? height with
  | some w, some h =>
    if w.toNat * h.toNat ≤ SettingFault.maxScaledPixels then .ok (w, h) else tooFine
  | _, _ => tooFine

/-- The tile in logical pixels. -/
def apply (s : Sampling) (tile : Image) : Except CaptureFault Image :=
  if s.ratio == 1 || tile.isEmpty then .ok tile
  else do
    let (width, height) ← s.logicalSize tile.width tile.height
    return Image.ofFn width height fun x y =>
      (tile.get? (s.source tile.width.toNat x) (s.source tile.height.toNat y)).getD .transparent

variable {s : Sampling} {tile scaled : Image} {width height w h : UInt32}

/-- **The sampling of a scaling scales as it does.** -/
theorem apply_ofScaling (s : Scaling) (tile : Image) : (ofScaling s).apply tile = s.apply tile := by
  unfold apply Scaling.apply
  by_cases hone : (s.ratio == 1) = true
  · have hratio : ((ofScaling s).ratio == 1) = true := hone
    rw [hratio, hone]
    rfl
  · have hratio : ((ofScaling s).ratio == 1) = false := Bool.eq_false_iff.2 hone
    rw [hratio, if_neg hone, Bool.false_or]
    by_cases hempty : tile.isEmpty = true
    · rw [if_pos hempty, dif_pos hempty]
    · rw [if_neg hempty, dif_neg hempty]
      obtain ⟨hw, hh⟩ := Scaling.pos_of_not_isEmpty hempty
      refine congrArg (s.logicalSize tile.width tile.height >>= ·) (funext fun size => ?_)
      refine congrArg (fun color => Except.ok (Image.ofFn size.1 size.2 color)) ?_
      funext x y
      have hx : s.sample tile.width.toNat x < tile.width.toNat := s.sample_lt x hw
      have hy : s.sample tile.height.toNat y < tile.height.toNat := s.sample_lt y hh
      change (tile.get? (s.sample _ x) (s.sample _ y)).getD .transparent = _
      rw [Image.get?_eq_some tile hx hy, Option.getD_some]

theorem le_of_logicalSize (hsize : s.logicalSize width height = .ok (w, h)) :
    w.toNat * h.toNat ≤ SettingFault.maxScaledPixels := by
  unfold logicalSize at hsize
  split at hsize
  · split at hsize
    · rename_i hle
      cases hsize
      exact hle
    · cases hsize
  · cases hsize

/-- A scaled tile has a size of 64 bits if the tile has. -/
theorem byteCount_of_apply (htile : Raster.byteCount tile.width tile.height < 2 ^ 64)
    (hscaled : s.apply tile = .ok scaled) :
    Raster.byteCount scaled.width scaled.height < 2 ^ 64 := by
  unfold apply at hscaled
  split at hscaled
  · cases hscaled
    exact htile
  · obtain ⟨⟨w, h⟩, hsize, hscaled⟩ := bind_eq_ok.1 hscaled
    cases hscaled
    have hle := le_of_logicalSize hsize
    unfold Raster.byteCount Image.ofFn
    unfold SettingFault.maxScaledPixels at hle
    simp only
    omega

end Sampling

namespace Raster

variable {s : Sampling} {tile : Image}

/-- The raster in logical pixels. -/
def scale (s : Sampling) (r : Raster) : Checked Raster :=
  if s.ratio == 1 || r.isEmpty then .ok r
  else do
    let (width, height) ← Checked.of (s.logicalSize r.width r.height)
    let scaled ← fromFn width height fun p =>
      r.read (s.source r.width.toNat p.1) (s.source r.height.toNat p.2)
    scaled.passOn

/-- **Scaling is not trapped**, whatever sizes and positions are computed. -/
theorem scale_toRaster (s : Sampling) (tile : Image) :
    scale s tile.toRaster = .of ((s.apply tile).map Image.toRaster) := by
  unfold scale Sampling.apply
  have hisEmpty : tile.toRaster.isEmpty = tile.isEmpty := rfl
  rw [hisEmpty]
  split
  · rfl
  · rename_i hwork
    obtain ⟨hw, hh⟩ := Scaling.pos_of_not_isEmpty fun hempty =>
      hwork (Bool.or_eq_true_iff.2 (.inr hempty))
    change (Checked.of (s.logicalSize tile.width tile.height) >>= _) = _
    rcases hsize : s.logicalSize tile.width tile.height with fault | ⟨width, height⟩
    · rfl
    · have hle := Sampling.le_of_logicalSize hsize
      have hbytes : byteCount width height < 2 ^ 64 := by
        unfold SettingFault.maxScaledPixels at hle
        unfold byteCount
        omega
      -- a position that is bounded by the last one of the tile is one of the tile
      have hread : ∀ x y, x < width.toNat → y < height.toNat →
          tile.toRaster.read (s.source tile.width.toNat x) (s.source tile.height.toNat y) =
            .ok ((tile.get? (s.source tile.width.toNat x)
              (s.source tile.height.toNat y)).getD .transparent) := by
        intro x y _ _
        have hx := s.source_lt x hw
        have hy := s.source_lt y hh
        rw [Image.get?_eq_some tile hx hy]
        exact Image.read_toRaster hx hy
      exact fromFn_passOn hbytes hread

/-! ## Cutting -/

/-- The raster without the rows cut off; the header is cut off first. -/
def cut (c : Cut) (r : Raster) : Checked Raster := do
  let height := r.height.toNat
  let top := min c.header.toNat height
  let below ← Checked.sub height top
  let kept ← Checked.sub below (min c.footer.toNat below)
  if kept = height then return r
  else do
    let cropped ← fromFn r.width (UInt32.ofNat kept) fun p => r.read p.1 (top + p.2)
    cropped.passOn

/-- **Cutting is not trapped**, also where more is to be cut off than there is. -/
theorem cut_toRaster (c : Cut) (hsize : byteCount tile.width tile.height < 2 ^ 64) :
    cut c tile.toRaster = .ok (c.apply tile).toRaster := by
  have hrows := c.top_add_kept_le tile.height.toNat
  have hbelow : Checked.sub tile.height.toNat (c.top tile.height.toNat) =
      .ok (tile.height.toNat - c.top tile.height.toNat) :=
    Checked.sub_of_le (Nat.min_le_right _ _)
  have hkept : Checked.sub (tile.height.toNat - c.top tile.height.toNat)
      (min c.footer.toNat (tile.height.toNat - c.top tile.height.toNat)) =
        .ok (c.kept tile.height.toNat) :=
    Checked.sub_of_le (Nat.min_le_right _ _)
  change (Checked.sub tile.height.toNat (c.top tile.height.toNat) >>= _) = _
  rw [hbelow, ok_bind, hkept, ok_bind]
  by_cases hall : c.kept tile.height.toNat = tile.height.toNat
  · have happly : c.apply tile = tile := if_pos hall
    rw [happly]
    exact if_pos hall
  · have happly : c.apply tile = tile.rows _ _ hrows := if_neg hall
    rw [happly, Image.rows_eq_band]
    refine (if_neg hall).trans ?_
    have hkept : (UInt32.ofNat (c.kept tile.height.toNat)).toNat = c.kept tile.height.toNat :=
      Image.height_rows tile hrows
    have hbytes : byteCount tile.width (UInt32.ofNat (c.kept tile.height.toNat)) < 2 ^ 64 := by
      refine Nat.lt_of_le_of_lt (Nat.mul_le_mul_left 4 (Nat.mul_le_mul_left _ ?_)) hsize
      omega
    have hread : ∀ x y, x < tile.width.toNat →
        y < (UInt32.ofNat (c.kept tile.height.toNat)).toNat →
          tile.toRaster.read x (c.top tile.height.toNat + y) =
            .ok ((tile.get? x (c.top tile.height.toNat + y)).getD .transparent) := by
      intro x y hx hy
      have hrow : c.top tile.height.toNat + y < tile.height.toNat := by omega
      rw [Image.get?_eq_some tile hx hrow]
      exact Image.read_toRaster hx hrow
    unfold Image.band
    rw [Nat.add_sub_cancel_left]
    exact fromFn_passOn hbytes hread

end Raster

/-! ## The whole assembly -/

/-- How tiles are put together. -/
inductive Layout where
  /-- The first tile stands for all. -/
  | viewport
  /-- All tiles that have pixels, below each other. -/
  | fullPage
deriving DecidableEq

namespace Layout

/-- The stitcher of a layout. -/
def stitcher : Layout → Stitcher
  | viewport => .viewport
  | fullPage => .fullPage

/-- Puts rasters together. -/
def stitchBytes : Layout → List Raster → Checked Raster
  | viewport, [] => .error (.fault (.stitch .noTiles))
  | viewport, tile :: _ => .ok tile
  | fullPage, tiles => Raster.stitch tiles

theorem stitchBytes_toRaster (l : Layout) {tiles : List Image}
    (hsize : ∀ img, l.stitcher.stitch tiles = .ok img →
      Raster.byteCount img.width img.height < 2 ^ 64) :
    l.stitchBytes (tiles.map Image.toRaster) =
      .of ((l.stitcher.stitch tiles).map Image.toRaster) := by
  cases l with
  | viewport => cases tiles <;> rfl
  | fullPage => exact Image.stitch_toRaster hsize

end Layout

/-- A capture put together, with the arithmetic of its scaling left open. -/
structure Assembly where
  sampling : Sampling
  cut : Cut
  layout : Layout

namespace Assembly

variable {a : Assembly} {tiles : List Image}

/-- A tile in logical pixels, and cut. -/
def prepare (a : Assembly) (tile : Image) : Except CaptureFault Image :=
  (a.sampling.apply tile).map a.cut.apply

/-- The image that captured tiles make up. -/
def assemble (a : Assembly) (tiles : List Image) : Except CaptureFault Image := do
  let tiles ← tiles.mapM a.prepare
  a.layout.stitcher.stitch tiles

/-- A raster in logical pixels, and cut if there is anything to cut off. -/
def prepareBytes (a : Assembly) (tile : Raster) : Checked Raster := do
  let scaled ← tile.scale a.sampling
  if a.cut.header.toNat + a.cut.footer.toNat > 0 then scaled.cut a.cut else return scaled

/-- The raster that captured rasters make up. -/
def assembleBytes (a : Assembly) (tiles : List Raster) : Checked Raster := do
  let tiles ← tiles.mapM a.prepareBytes
  a.layout.stitchBytes tiles

theorem prepareBytes_toRaster (a : Assembly) {tile : Image}
    (htile : Raster.byteCount tile.width tile.height < 2 ^ 64) :
    a.prepareBytes tile.toRaster = .of ((a.prepare tile).map Image.toRaster) := by
  unfold prepareBytes prepare
  rw [Raster.scale_toRaster]
  rcases hscaled : a.sampling.apply tile with fault | scaled
  · rfl
  · change (if _ then _ else _) = _
    split
    · exact Raster.cut_toRaster a.cut (Sampling.byteCount_of_apply htile hscaled)
    · rename_i hnothing
      have happly := CapturePlan.apply_of_nothing hnothing scaled
      change _ = Checked.of (.ok (a.cut.apply scaled).toRaster)
      rw [happly]
      rfl

/-- **No assembly is trapped**, whatever the scaling computes: it comes to an image
or to a fault. -/
theorem assembleBytes_toRaster (a : Assembly)
    (htiles : ∀ tile ∈ tiles, Raster.byteCount tile.width tile.height < 2 ^ 64)
    (hsize : ∀ img, a.assemble tiles = .ok img → Raster.byteCount img.width img.height < 2 ^ 64) :
    a.assembleBytes (tiles.map Image.toRaster) =
      .of ((a.assemble tiles).map Image.toRaster) := by
  have hprepared : (tiles.map Image.toRaster).mapM a.prepareBytes =
      .of ((tiles.mapM a.prepare).map (List.map Image.toRaster)) :=
    Checked.mapM_eq_of tiles fun tile htile => a.prepareBytes_toRaster (htiles tile htile)
  unfold assembleBytes
  rw [hprepared]
  rcases hmap : tiles.mapM a.prepare with fault | prepared
  · unfold assemble
    rw [hmap]
    rfl
  · have hassemble : a.assemble tiles = a.layout.stitcher.stitch prepared := by
      unfold assemble
      rw [hmap]
      rfl
    rw [hassemble] at hsize ⊢
    exact a.layout.stitchBytes_toRaster hsize

/-- **With the sampling of its scaling the assembly is that of a plan.** -/
theorem assemble_of_plan {plan : CapturePlan} (hsampling : a.sampling = .ofScaling plan.scaling)
    (hcut : a.cut = plan.cut) (hlayout : a.layout.stitcher = plan.stitcher) :
    a.assemble tiles = plan.assemble tiles := by
  have hprepare : a.prepare = plan.prepare := by
    funext tile
    rw [plan.prepare_eq_map, prepare, hsampling, Sampling.apply_ofScaling, hcut]
  unfold assemble CapturePlan.assemble
  rw [hprepare, hlayout]

end Assembly

end VisualRegression
