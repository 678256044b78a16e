import VisualRegression.Proofs.Capture.FullPage
import VisualRegression.Proofs.Raster.Drawing

/-!
# Rasters below each other

Tiles are put together by drawing one after the other on a new raster, each below the one before.
Main statement: `Image.stitch_toRaster` says that this comes to what `Stitcher.allTiles` makes of
the tiles, and that nothing is written outside on the way, whatever the sizes of the tiles.
-/

namespace VisualRegression

namespace Image

variable {parts : List Image} {width : UInt32} {offset x y : Nat}

/-- The pixel at a position of images below each other. -/
def inStack : List Image → Nat × Nat → Pixel
  | [], _ => .transparent
  | part :: rest, p =>
    if p.2 < part.height.toNat then (part.get? p.1 p.2).getD .transparent
    else inStack rest (p.1, p.2 - part.height.toNat)

/-- The pixels of images of one width below each other, one after the other. -/
theorem getElem?_flatMap_pixels (hw : ∀ p ∈ parts, p.width = width) {i : Nat}
    (hi : i < width.toNat * totalHeight parts) :
    (parts.flatMap fun p => p.pixels.toList)[i]? =
      some (inStack parts (i % width.toNat, i / width.toNat)) := by
  induction parts generalizing i with
  | nil => exact absurd hi (Nat.not_lt_zero _)
  | cons part rest ih =>
    obtain rfl : part.width = width := hw part List.mem_cons_self
    have hpos : 0 < part.width.toNat := Nat.pos_of_mul_pos_right (Nat.zero_lt_of_lt hi)
    have hlength : part.pixels.toList.length = part.width.toNat * part.height.toNat := by
      rw [Array.length_toList, part.size_eq]
    rw [List.flatMap_cons, inStack]
    by_cases hrow : i / part.width.toNat < part.height.toNat
    · have hlt : i < part.pixels.toList.length := by
        rw [hlength, Nat.mul_comm]
        exact (Nat.div_lt_iff_lt_mul hpos).1 hrow
      rw [if_pos hrow, List.getElem?_append_left hlt, List.getElem?_eq_getElem hlt,
        get?_eq_some part (Nat.mod_lt _ hpos) hrow, Option.getD_some]
      unfold get
      simp only [Nat.div_add_mod', Array.getElem_toList]
    · have hle : part.pixels.toList.length ≤ i := by
        rw [hlength, Nat.mul_comm]
        exact (Nat.le_div_iff_mul_le hpos).1 (Nat.not_lt.1 hrow)
      have hrest : i - part.pixels.toList.length < part.width.toNat * totalHeight rest := by
        have htotal : totalHeight (part :: rest) = part.height.toNat + totalHeight rest := rfl
        rw [htotal, Nat.mul_add, ← hlength] at hi
        omega
      rw [if_neg hrow, List.getElem?_append_right hle,
        ih (fun p hp => hw p (List.mem_cons_of_mem _ hp)) hrest, hlength,
        Nat.sub_mul_mod (hlength ▸ hle), Nat.sub_mul_div]

/-- **A stack is built from the pixels of its parts**, each below the ones before. -/
theorem stack_eq_ofFn (hw : ∀ p ∈ parts, p.width = width)
    (hh : totalHeight parts < UInt32.size) :
    stack width parts hw hh =
      ofFn width (UInt32.ofNat (totalHeight parts)) fun x y => inStack parts (x, y) := by
  have hpixel : ∀ x y hx hy, inStack parts (x, y) = (stack width parts hw hh).get x y hx hy := by
    intro x y (hx : x < width.toNat) hy
    rw [height_stack hw hh] at hy
    have hi : y * width.toNat + x < width.toNat * totalHeight parts := index_lt hx hy
    have hget := getElem?_flatMap_pixels hw hi
    rw [mod_index hx, div_index hx] at hget
    have hlt : y * width.toNat + x < (parts.flatMap fun p => p.pixels.toList).length := by
      rw [size_flatMap_pixels hw]
      exact hi
    exact ((List.getElem_eq_iff hlt).2 hget).symm
  exact (ofFn_eq hpixel).symm

/-! ## Where the parts are drawn -/

/-- The positions of images below each other, the first of them in row `offset`. -/
def placed : Nat → List Image → List (Nat × Nat)
  | _, [] => []
  | offset, part :: rest =>
    part.positions.map (fun p => (p.1, offset + p.2)) ++ placed (offset + part.height.toNat) rest

/-- **The parts fill the rows from the first one on**, and no others. -/
theorem mem_placed (hw : ∀ p ∈ parts, p.width = width) :
    (x, y) ∈ placed offset parts ↔
      x < width.toNat ∧ offset ≤ y ∧ y < offset + totalHeight parts := by
  induction parts generalizing offset with
  | nil =>
    have hnone : totalHeight ([] : List Image) = 0 := rfl
    simp only [placed, List.not_mem_nil, false_iff, hnone]
    omega
  | cons part rest ih =>
    obtain rfl : part.width = width := hw part List.mem_cons_self
    have htotal : totalHeight (part :: rest) = part.height.toNat + totalHeight rest := rfl
    have hfirst : (x, y) ∈ part.positions.map (fun p => (p.1, offset + p.2)) ↔
        x < part.width.toNat ∧ offset ≤ y ∧ y < offset + part.height.toNat := by
      rw [List.mem_map]
      constructor
      · rintro ⟨⟨x', y'⟩, hmem, ⟨⟩⟩
        obtain ⟨hx, hy⟩ := mem_positions.1 hmem
        exact ⟨hx, Nat.le_add_right _ _, Nat.add_lt_add_left hy _⟩
      · rintro ⟨hx, hle, hlt⟩
        refine ⟨(x, y - offset), mem_positions.2 ⟨hx, by omega⟩, ?_⟩
        rw [Nat.add_sub_cancel' hle]
    rw [placed, List.mem_append, hfirst, ih fun p hp => hw p (List.mem_cons_of_mem _ hp), htotal]
    omega

/-- What is drawn depends on the colours of the positions that are. -/
theorem redraw_congr_color {img : Image} {positions : List (Nat × Nat)}
    {color color' : Nat × Nat → Pixel} (h : ∀ p ∈ positions, color p = color' p) :
    img.redraw positions color = img.redraw positions color' := by
  unfold redraw
  congr 1
  funext x y p
  by_cases hp : (x, y) ∈ positions
  · rw [if_pos hp, if_pos hp, h _ hp]
  · rw [if_neg hp, if_neg hp]

end Image

/-! ## The loop over the parts -/

namespace Raster

/-- The number of pixels is zero. -/
def isEmpty (r : Raster) : Bool := r.width.toNat * r.height.toNat == 0

/-- Draws one raster on another, its first row in row `offset`. -/
def drawOn (canvas : Raster) (offset : Nat) (part : Raster) : Checked Raster :=
  canvas.draw part.positions (fun p => (p.1, offset + p.2)) fun p => part.read p.1 p.2

/-- Draws rasters below each other, the first of them in row `offset`. -/
def drawAllOn : Raster → Nat → List Raster → Checked Raster
  | canvas, _, [] => .ok canvas
  | canvas, offset, part :: rest => do
    let drawn ← canvas.drawOn offset part
    drawn.drawAllOn (offset + part.height.toNat) rest

/-- Rasters of one width below each other.  Their heights are added up without a bound: rasters with
pixels that are in memory together have fewer than 2 ^ 64 rows. -/
def stack (parts : List Raster) : Checked Raster :=
  let width := (parts.head?.map Raster.width).getD 0
  match parts.find? fun p => p.width != width with
  | some odd => .error (.fault (.stitch (.widthDiffers odd.width width)))
  | none =>
    let height := (parts.map fun p => p.height.toNat).sum
    if height < UInt32.size then do
      let canvas ← blank width (UInt32.ofNat height)
      let drawn ← canvas.drawAllOn 0 parts
      drawn.passOn
    else .error (.fault (.stitch (.tooHigh height)))

/-- All rasters that have pixels, below each other; a single one stays as it is. -/
def stitch : List Raster → Checked Raster
  | [] => .error (.fault (.stitch .noTiles))
  | [tile] => .ok tile
  | tiles => stack (tiles.filter fun t => !t.isEmpty)

end Raster

namespace Image

variable {parts tiles : List Image} {width : UInt32}

/-- **Drawing parts below each other is not trapped** where there is room for them. -/
theorem drawAllOn_toRaster (hw : ∀ p ∈ parts, p.width = width)
    (img : Image) (hwidth : img.width = width) {offset : Nat}
    (hroom : offset + totalHeight parts ≤ img.height.toNat) :
    img.toRaster.drawAllOn offset (parts.map toRaster) =
      .ok (img.redraw (placed offset parts)
        fun p => inStack parts (p.1, p.2 - offset)).toRaster := by
  induction parts generalizing img offset with
  | nil => exact congrArg (fun drawn : Image => Except.ok drawn.toRaster) (redraw_nil img _).symm
  | cons part rest ih =>
    have hpart : part.width = width := hw part List.mem_cons_self
    have htotal : totalHeight (part :: rest) = part.height.toNat + totalHeight rest := rfl
    let color : Nat × Nat → Pixel := fun p => inStack (part :: rest) (p.1, p.2 - offset)
    let drawn := img.redraw (part.positions.map fun p => (p.1, offset + p.2)) color
    have hdrawn : img.toRaster.drawOn offset part.toRaster = .ok drawn.toRaster := by
      refine img.draw_toRaster fun p hp => ?_
      obtain ⟨hx, hy⟩ := mem_positions.1 hp
      refine ⟨⟨?_, ?_⟩, ?_⟩
      · rw [hpart, ← hwidth] at hx
        exact hx
      · change offset + p.2 < img.height.toNat
        omega
      · rw [read_toRaster hx hy]
        simp only [color, inStack, Nat.add_sub_cancel_left, if_pos hy, get?_eq_some part hx hy,
          Option.getD_some]
    -- the rows below are drawn in the colours that they have in the whole stack
    have hcolor : ∀ p ∈ placed (offset + part.height.toNat) rest,
        inStack rest (p.1, p.2 - (offset + part.height.toNat)) = color p := by
      intro p hp
      have hbelow := ((mem_placed fun p hp => hw p (List.mem_cons_of_mem _ hp)).1 hp).2.1
      simp only [color, inStack]
      rw [if_neg (by omega), Nat.sub_sub]
    have hrest := ih (fun p hp => hw p (List.mem_cons_of_mem _ hp)) drawn hwidth
      (Nat.add_assoc _ _ _ ▸ htotal ▸ hroom)
    rw [redraw_congr_color hcolor, redraw_redraw] at hrest
    rw [List.map_cons, Raster.drawAllOn, hdrawn]
    exact hrest

/-- **Stacking rasters is not trapped** where the stack has a size of 64 bits, and comes to the
image that the parts make up below each other. -/
theorem stack_toRaster
    (hsize : ∀ img, Stitcher.stackTiles parts = .ok img →
      Raster.byteCount img.width img.height < 2 ^ 64) :
    Raster.stack (parts.map toRaster) =
      .of ((Stitcher.stackTiles parts).map toRaster) := by
  have hhead : ((parts.map toRaster).head?.map Raster.width).getD 0 =
      (parts.head?.map Image.width).getD 0 := by
    rw [List.head?_map, Option.map_map]
    rfl
  have hheight : ((parts.map toRaster).map fun p => p.height.toNat).sum = totalHeight parts := by
    rw [totalHeight_eq_sum, List.map_map]
    rfl
  have hfind (width : UInt32) : (parts.map toRaster).find? (fun p => p.width != width) =
      (parts.find? fun p => p.width != width).map toRaster := by
    rw [List.find?_map]
    rfl
  simp only [Raster.stack, hhead, hheight, hfind]
  cases hodd : parts.find? fun p => p.width != (parts.head?.map Image.width).getD 0 with
  | some odd =>
    rw [Stitcher.stackTiles_of_odd hodd]
    rfl
  | none =>
    rw [Stitcher.stackTiles_of_even hodd] at hsize ⊢
    by_cases hlow : totalHeight parts < UInt32.size
    · rw [dif_pos hlow] at hsize ⊢
      have hw := Stitcher.width_eq_of_find? hodd
      let canvas := filled ((parts.head?.map Image.width).getD 0)
        (UInt32.ofNat (totalHeight parts)) .transparent
      have hrows : canvas.height.toNat = totalHeight parts := UInt32.toNat_ofNat_of_lt' hlow
      have hall : ∀ p, p ∈ placed 0 parts ↔ p ∈ canvas.positions := by
        rintro ⟨x, y⟩
        rw [mem_placed hw, mem_positions, hrows, Nat.zero_add]
        exact and_congr_right fun _ => and_iff_right (Nat.zero_le _)
      have hstack : canvas.redraw (placed 0 parts) (fun p => inStack parts (p.1, p.2 - 0)) =
          stack _ parts hw hlow := by
        rw [redraw_congr hall, redraw_positions, stack_eq_ofFn]
        rfl
      have hdraw := drawAllOn_toRaster hw canvas rfl
        (Nat.le_of_eq ((Nat.zero_add _).trans hrows.symm))
      rw [hstack] at hdraw
      have hblank : Raster.blank ((parts.head?.map Image.width).getD 0)
          (UInt32.ofNat (totalHeight parts)) = .ok canvas.toRaster :=
        Raster.blank_of_lt (hsize _ rfl)
      simp only [Option.map_none, if_pos hlow]
      rw [hblank, ok_bind, hdraw, ok_bind, passOn_toRaster]
      rfl
    · rw [dif_neg hlow]
      simp only [Option.map_none, if_neg hlow]
      rfl

/-- **Putting rasters together is not trapped**, however many they are and whatever their sizes. -/
theorem stitch_toRaster
    (hsize : ∀ img, Stitcher.allTiles tiles = .ok img →
      Raster.byteCount img.width img.height < 2 ^ 64) :
    Raster.stitch (tiles.map toRaster) = .of ((Stitcher.allTiles tiles).map toRaster) := by
  match tiles with
  | [] => rfl
  | [tile] => rfl
  | first :: second :: rest =>
    have hfilter : ((first :: second :: rest).map toRaster).filter (fun t => !t.isEmpty) =
        ((first :: second :: rest).filter fun t => !t.isEmpty).map toRaster := by
      rw [List.filter_map]
      rfl
    exact (congrArg Raster.stack hfilter).trans (stack_toRaster hsize)

end Image

end VisualRegression
