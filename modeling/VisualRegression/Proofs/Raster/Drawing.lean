import VisualRegression.Difference
import VisualRegression.Proofs.Failing
import VisualRegression.Proofs.Raster.Basic

/-!
# Drawing on rasters

All that is done to the bytes of images is one loop: for each of some positions a pixel is found and
written somewhere.  Main statements: `Image.draw_toRaster` says that this loop is not trapped if the
pixels are found and their places lie inside, and what it draws then; `Raster.fromFn_of_lt` says so
of a new image that is drawn from one end to the other.
-/

namespace VisualRegression

namespace Raster

/-- All positions, row by row. -/
def positions (r : Raster) : List (Nat × Nat) :=
  (List.range r.height.toNat).flatMap fun y => (List.range r.width.toNat).map fun x => (x, y)

/-- **Draws a pixel for each of some positions**, one after the other, each at the place for its
position. -/
def draw (canvas : Raster) (positions : List (Nat × Nat)) (place : Nat × Nat → Nat × Nat)
    (source : Nat × Nat → Checked Pixel) : Checked Raster :=
  positions.foldlM
    (fun canvas p => do
      let color ← source p
      canvas.write (place p).1 (place p).2 color)
    canvas

/-- A new raster, each position of it drawn. -/
def fromFn (width height : UInt32) (source : Nat × Nat → Checked Pixel) : Checked Raster := do
  let canvas ← blank width height
  canvas.draw canvas.positions id source

end Raster

namespace Image

variable {img : Image} {color : Nat × Nat → Pixel} {positions : List (Nat × Nat)}
  {place : Nat × Nat → Nat × Nat} {source : Nat × Nat → Checked Pixel} {x y : Nat}

theorem mapPixels_mapPixels (img : Image) (f g : Nat → Nat → Pixel → Pixel) :
    (img.mapPixels f).mapPixels g = img.mapPixels fun x y p => g x y (f x y p) :=
  ext_pixels rfl Array.mapIdx_mapIdx

theorem redraw_nil (img : Image) (color : Nat × Nat → Pixel) : img.redraw [] color = img :=
  ext_pixels rfl (Array.ext (Array.size_mapIdx ..) fun _ _ _ => Array.getElem_mapIdx ..)

/-- Positions drawn after others are drawn together with them. -/
theorem redraw_redraw (img : Image) (color : Nat × Nat → Pixel) (l m : List (Nat × Nat)) :
    (img.redraw l color).redraw m color = img.redraw (l ++ m) color := by
  unfold redraw
  rw [mapPixels_mapPixels]
  congr 1
  funext x y p
  simp only [List.mem_append]
  by_cases hl : (x, y) ∈ l <;> by_cases hm : (x, y) ∈ m <;> simp [hl, hm]

/-- What is drawn depends on which positions are, and on nothing else of the list. -/
theorem redraw_congr {l m : List (Nat × Nat)} (h : ∀ p, p ∈ l ↔ p ∈ m) :
    img.redraw l color = img.redraw m color := by
  unfold redraw
  simp only [h]

theorem get?_redraw (img : Image) (positions : List (Nat × Nat)) (color : Nat × Nat → Pixel)
    (hx : x < img.width.toNat) (hy : y < img.height.toNat) :
    (img.redraw positions color).get? x y =
      if (x, y) ∈ positions then some (color (x, y)) else img.get? x y := by
  unfold redraw
  rw [get?_mapPixels, get?_eq_some img hx hy, Option.map_some]
  split <;> rfl

/-- An image drawn anew from one end to the other. -/
theorem redraw_positions (img : Image) (color : Nat × Nat → Pixel) :
    img.redraw img.positions color = ofFn img.width img.height fun x y => color (x, y) := by
  refine ext_get? rfl fun x y (hx : x < img.width.toNat) (hy : y < img.height.toNat) => ?_
  rw [get?_redraw img _ color hx hy, if_pos (mem_positions.2 ⟨hx, hy⟩),
    get?_eq_some (ofFn img.width img.height _) hx hy, get_ofFn]

/-- **Drawing inside of an image is not trapped**, and draws each place in its colour. -/
theorem draw_toRaster (img : Image)
    (h : ∀ p ∈ positions, img.toRaster.HasPosition (place p).1 (place p).2 ∧
      source p = .ok (color (place p))) :
    img.toRaster.draw positions place source =
      .ok (img.redraw (positions.map place) color).toRaster := by
  induction positions generalizing img with
  | nil =>
    exact congrArg (fun drawn : Image => Except.ok drawn.toRaster) (redraw_nil img color).symm
  | cons p rest ih =>
    obtain ⟨⟨hx, hy⟩, hsource⟩ := h p List.mem_cons_self
    have hrest := ih (img.redraw [place p] color) fun q hq => h q (List.mem_cons_of_mem _ hq)
    rw [redraw_redraw] at hrest
    unfold Raster.draw at hrest ⊢
    rw [List.foldlM_cons, hsource]
    have hwrite := write_toRaster hx hy color
    rw [Prod.eta] at hwrite
    rw [ok_bind, hwrite]
    exact hrest

end Image

namespace Raster

variable {width height : UInt32} {source : Nat × Nat → Checked Pixel} {color : Nat → Nat → Pixel}

/-- **A new image is drawn untrapped** if each of its pixels is found. -/
theorem fromFn_of_lt (hsize : byteCount width height < 2 ^ 64)
    (h : ∀ x y, x < width.toNat → y < height.toNat → source (x, y) = .ok (color x y)) :
    fromFn width height source = .ok (Image.ofFn width height color).toRaster := by
  let canvas := Image.filled width height .transparent
  have hdraw : canvas.toRaster.draw canvas.positions id source =
      .ok (canvas.redraw (canvas.positions.map id) fun p => color p.1 p.2).toRaster :=
    canvas.draw_toRaster fun p hp => by
      obtain ⟨hx, hy⟩ := Image.mem_positions.1 hp
      exact ⟨⟨hx, hy⟩, h _ _ hx hy⟩
  rw [List.map_id, Image.redraw_positions] at hdraw
  unfold fromFn
  rw [blank_of_lt hsize]
  exact hdraw

/-- A new image that is drawn is passed on. -/
theorem fromFn_passOn (hsize : byteCount width height < 2 ^ 64)
    (h : ∀ x y, x < width.toNat → y < height.toNat → source (x, y) = .ok (color x y)) :
    (fromFn width height source >>= passOn) = .ok (Image.ofFn width height color).toRaster := by
  rw [fromFn_of_lt hsize h, ok_bind, Image.passOn_toRaster]

end Raster

end VisualRegression
