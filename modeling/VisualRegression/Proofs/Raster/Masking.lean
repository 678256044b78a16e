import VisualRegression.Proofs.Mask.Covered
import VisualRegression.Proofs.Raster.Drawing

/-!
# Masking rasters

Filling relies on a rectangle that has pixels, all of them inside of the image, and on edges that
are signed numbers of 32 bits: `Rect.Fillable`.  Main statement: `Image.mask_toRaster` says that
masking hands it no other rectangle, wherever the regions to ignore are and however large.
-/

namespace VisualRegression

namespace Rect

variable {r c : Rect} {width height : UInt32} {topAdjustment : Int32} {x y : Nat}

/-- **The rectangle can be filled** in an image of this size: both have pixels, and those of the
rectangle are pixels of the image. -/
structure Fillable (r : Rect) (width height : UInt32) : Prop where
  columns : 0 < r.width.toNat
  rows : 0 < r.height.toNat
  image : 0 < width.toNat ∧ 0 < height.toNat
  left : 0 ≤ r.x.toInt
  top : 0 ≤ r.y.toInt
  right : r.right ≤ width.toNat
  bottom : r.bottom ≤ height.toNat
  signed : width.toNat < 2 ^ 31 ∧ height.toNat < 2 ^ 31

instance (r : Rect) (width height : UInt32) : Decidable (r.Fillable width height) :=
  decidable_of_iff
    (0 < r.width.toNat ∧ 0 < r.height.toNat ∧ (0 < width.toNat ∧ 0 < height.toNat) ∧
      0 ≤ r.x.toInt ∧ 0 ≤ r.y.toInt ∧ r.right ≤ width.toNat ∧ r.bottom ≤ height.toNat ∧
        width.toNat < 2 ^ 31 ∧ height.toNat < 2 ^ 31)
    ⟨fun ⟨h₁, h₂, h₃, h₄, h₅, h₆, h₇, h₈⟩ => ⟨h₁, h₂, h₃, h₄, h₅, h₆, h₇, h₈⟩,
      fun h => ⟨h.columns, h.rows, h.image, h.left, h.top, h.right, h.bottom, h.signed⟩⟩

/-- **What is left of a rectangle inside an image can be filled.** -/
theorem fillable_of_clip? (h : r.clip? width height = some c) (hw : width.toNat < 2 ^ 31)
    (hh : height.toNat < 2 ^ 31) : c.Fillable width height := by
  obtain ⟨hcolumns, hrows⟩ := meets_of_clip? h
  obtain ⟨hleft, htop, hright, hbottom⟩ := edges_of_clip? h
  have hwidth : c.right = c.x.toInt + c.width.toNat := rfl
  have hheight : c.bottom = c.y.toInt + c.height.toNat := rfl
  constructor <;> omega

/-- The positions of the pixels of a rectangle, row by row. -/
def positions (r : Rect) : List (Nat × Nat) :=
  (List.range r.height.toNat).flatMap fun dy =>
    (List.range r.width.toNat).map fun dx => (r.x.toInt.toNat + dx, r.y.toInt.toNat + dy)

/-- The positions are those that the rectangle contains. -/
theorem mem_positions (hx : 0 ≤ r.x.toInt) (hy : 0 ≤ r.y.toInt) :
    (x, y) ∈ r.positions ↔ r.Contains x y := by
  simp only [positions, List.mem_flatMap, List.mem_range, List.mem_map, Prod.mk.injEq, Contains,
    right, bottom]
  constructor
  · rintro ⟨dy, hdy, dx, hdx, rfl, rfl⟩
    omega
  · rintro ⟨hleft, hright, htop, hbottom⟩
    exact ⟨y - r.y.toInt.toNat, by omega, x - r.x.toInt.toNat, by omega, by omega, by omega⟩

end Rect

namespace Raster

/-- The raster with a rectangle filled. -/
def fill (r : Raster) (rect : Rect) (color : Pixel) : Checked Raster :=
  if rect.Fillable r.width r.height then r.draw rect.positions id fun _ => .ok color
  else .error (.trap (.rectangle rect))

/-- The raster with the visible parts of regions filled. -/
def fillAll (color : Pixel) (topAdjustment : Int32) (r : Raster) (regions : List Rect) :
    Checked Raster :=
  regions.foldlM
    (fun r rect =>
      match Mask.visible? r.width r.height topAdjustment rect with
      | some rect => r.fill rect color
      | none => .ok r)
    r

/-- The raster with one kind of region filled. -/
def maskKind (color : Pixel) (ignores : IgnoreMap) (topAdjustment : Int32) (r : Raster)
    (k : IgnoreKind) : Checked Raster :=
  match Mask.regions? ignores k with
  | none => .ok r
  | some regions => do
    let filled ← r.fillAll color topAdjustment regions
    filled.passOn

/-- The raster with all ignored regions filled. -/
def mask (color : Pixel) (ignores : IgnoreMap) (topAdjustment : Int32) (r : Raster) :
    Checked Raster :=
  IgnoreKind.ordered.foldlM (maskKind color ignores topAdjustment) r

end Raster

namespace Image

variable {img : Image} {rect : Rect} {color : Pixel} {topAdjustment : Int32}
  {ignores : IgnoreMap}

theorem fill_toRaster (h : rect.Fillable img.width img.height) :
    img.toRaster.fill rect color = .ok (img.paint rect color).toRaster := by
  have hpaint : img.redraw rect.positions (fun _ => color) = img.paint rect color := by
    unfold redraw paint
    simp only [Rect.mem_positions h.left h.top]
  have hdraw : img.toRaster.draw rect.positions id (fun _ => .ok color) =
      .ok (img.redraw (rect.positions.map id) fun _ => color).toRaster := by
    refine img.draw_toRaster fun p hp => ⟨?_, rfl⟩
    obtain ⟨-, hright, -, hbottom⟩ := (Rect.mem_positions h.left h.top).1 hp
    have hwidth := h.right
    have hheight := h.bottom
    refine ⟨?_, ?_⟩
    · change p.1 < img.width.toNat
      omega
    · change p.2 < img.height.toNat
      omega
  rw [List.map_id, hpaint] at hdraw
  exact (if_pos h).trans hdraw

/-- **Filling regions is not trapped**, wherever they are. -/
theorem fillAll_toRaster (hrange : img.InRange) (regions : List Rect) :
    img.toRaster.fillAll color topAdjustment regions =
      .ok (Mask.fill color topAdjustment img regions).toRaster := by
  induction regions generalizing img with
  | nil => rfl
  | cons r rest ih =>
    unfold Raster.fillAll Mask.fill at ih ⊢
    rw [List.foldlM_cons, List.foldl_cons]
    have hsides : Mask.visible? img.toRaster.width img.toRaster.height topAdjustment r =
        Mask.visible? img.width img.height topAdjustment r := rfl
    rw [hsides]
    cases hvisible : Mask.visible? img.width img.height topAdjustment r with
    | none => exact ih hrange
    | some c =>
      have hfillable : c.Fillable img.width img.height :=
        Rect.fillable_of_clip? hvisible hrange.width_lt hrange.height_lt
      simp only [fill_toRaster hfillable]
      -- painting leaves the sides of an image as they are
      exact ih (hrange.of_sides_eq rfl rfl)

theorem maskKind_toRaster (sofar : Image × List Snapshot) (hrange : sofar.1.InRange)
    (k : IgnoreKind) :
    sofar.1.toRaster.maskKind color ignores topAdjustment k =
      .ok (Mask.step color ignores topAdjustment sofar k).1.toRaster := by
  unfold Raster.maskKind Mask.step
  cases Mask.regions? ignores k with
  | none => rfl
  | some regions =>
    simp only [fillAll_toRaster hrange]
    exact passOn_toRaster _

/-- **Masking is not trapped**, whatever is to be ignored. -/
theorem mask_toRaster (hrange : img.InRange) :
    img.toRaster.mask color ignores topAdjustment =
      .ok (Mask.apply color img ignores topAdjustment).1.toRaster := by
  have hkinds (kinds : List IgnoreKind) (sofar : Image × List Snapshot)
      (hrange : sofar.1.InRange) :
      kinds.foldlM (Raster.maskKind color ignores topAdjustment) sofar.1.toRaster =
        .ok (kinds.foldl (Mask.step color ignores topAdjustment) sofar).1.toRaster := by
    induction kinds generalizing sofar with
    | nil => rfl
    | cons k rest ih =>
      have hfills := Mask.fills_step color ignores topAdjustment sofar k
      rw [List.foldlM_cons, List.foldl_cons, maskKind_toRaster sofar hrange k, ok_bind]
      exact ih _ (hrange.of_sides_eq hfills.width_eq hfills.height_eq)
  exact hkinds IgnoreKind.ordered (img, []) hrange

end Image

end VisualRegression
