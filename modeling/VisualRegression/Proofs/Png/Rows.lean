import Mathlib.Data.List.GetD
import VisualRegression.Png.Codec

/-!
# Rows as they are

The rows of an image, as they are written, are read as they were (`readPasses?_rowBytes`), and their
bytes stand for the pixels of the image (`pixelOf_rowOf`).
-/

namespace VisualRegression.Png

/-- The pixels of a row of an image. -/
def pixelsOf (img : Image) (y : Nat) : List Pixel :=
  (img.pixels.extract (y * img.width.toNat) ((y + 1) * img.width.toNat)).toList

/-- The bytes of a row of an image. -/
def rowOf (img : Image) (y : Nat) : List UInt8 := (pixelsOf img y).flatMap Pixel.channels

/-- A row of an image has a pixel for each column. -/
theorem length_pixelsOf {img : Image} {y : Nat} (hy : y < img.height.toNat) :
    (pixelsOf img y).length = img.width.toNat := by
  have hend : (y + 1) * img.width.toNat ≤ img.width.toNat * img.height.toNat := by
    rw [Nat.mul_comm img.width.toNat]
    exact Nat.mul_le_mul_right _ hy
  unfold pixelsOf
  rw [Array.length_toList, Array.size_extract, img.size_eq, Nat.min_eq_left hend, Nat.add_mul,
    Nat.one_mul, Nat.add_sub_cancel_left]

theorem length_flatMap_channels (pixels : List Pixel) :
    (pixels.flatMap Pixel.channels).length = 4 * pixels.length := by
  induction pixels with
  | nil => rfl
  | cons p rest ih =>
    rw [List.flatMap_cons, List.length_append, ih, List.length_cons,
      show p.channels.length = 4 from rfl]
    omega

/-! ## Reading rows -/

/-- Rows of one length, as they are, are read as they are. -/
theorem readRows?_plain (gap : Nat) {length : Nat} {lines : List (List UInt8)}
    (h : ∀ line ∈ lines, line.length = length) (above : Array UInt8) (rest : List UInt8) :
    readRows? gap length lines.length above (lines.flatMap (fun line => 0 :: line) ++ rest) =
      some (lines.map List.toArray, rest) := by
  induction lines generalizing above with
  | nil => rfl
  | cons line lines ih =>
    have hline : line.length = length := h line List.mem_cons_self
    have hplain : RowFilter.ofCode? 0 = some .plain := rfl
    rw [List.length_cons, List.flatMap_cons, List.cons_append, List.cons_append,
      List.append_assoc, readRows?]
    dsimp only
    rw [hplain]
    dsimp only [Option.bind_eq_bind, Option.bind_some]
    rw [List.take_left' hline, List.drop_left' hline, if_pos hline, RowFilter.restore_plain,
      Array.empty_append, ih fun other hother => h other (List.mem_cons_of_mem _ hother)]
    rfl

/-- A row of an image has four bytes for each column. -/
theorem length_rowOf {img : Image} {y : Nat} (hy : y < img.height.toNat) :
    (rowOf img y).length = 4 * img.width.toNat := by
  unfold rowOf
  rw [length_flatMap_channels, length_pixelsOf hy]

/-- The rows of an image are read from its bytes. -/
theorem readPasses?_rowBytes {img : Image} (hw : img.width.toNat ≠ 0) :
    readPasses? (headerOf img) [Grid.whole] (rowBytes img) =
      some [⟨Grid.whole,
        ((List.range img.height.toNat).map fun y => (rowOf img y).toArray).toArray⟩] := by
  have hlines : rowBytes img =
      ((List.range img.height.toNat).map (rowOf img)).flatMap (fun line => 0 :: line) ++ [] := by
    rw [List.flatMap_map, List.append_nil]
    rfl
  have hlength : (headerOf img).rowLength img.width.toNat = 4 * img.width.toNat := by
    show (img.width.toNat * 4 * 8 + 7) / 8 = _
    omega
  have hcolumns : Grid.whole.columns (headerOf img).width.toNat = img.width.toNat := by
    show (img.width.toNat - 0 + 1 - 1) / 1 = _
    omega
  have hrows : Grid.whole.rows (headerOf img).height.toNat =
      ((List.range img.height.toNat).map (rowOf img)).length := by
    rw [List.length_map, List.length_range]
    show (img.height.toNat - 0 + 1 - 1) / 1 = _
    omega
  have hlengths : ∀ line ∈ (List.range img.height.toNat).map (rowOf img),
      line.length = 4 * img.width.toNat := by
    intro line hline
    obtain ⟨y, hy, rfl⟩ := List.mem_map.1 hline
    exact length_rowOf (List.mem_range.1 hy)
  have hread := readRows?_plain (headerOf img).pixelLength hlengths #[] []
  rw [readPasses?]
  simp only [hcolumns, if_neg hw, hlength]
  rw [hrows, hlines, hread]
  dsimp only [Option.bind_eq_bind, Option.bind_some]
  rw [List.map_map]
  rfl

/-! ## Pixels of rows -/

/-- A sample of eight bits is a byte of its row. -/
theorem sampleAt_eight (row : Array UInt8) (i : Nat) :
    sampleAt 8 row i = (row.getD i 0).toNat := by
  have hlt : (row.getD i 0).toNat < 1 <<< 8 := (row.getD i 0).toNat_lt
  unfold sampleAt
  dsimp only
  rw [if_neg (by decide), Nat.div_self (by decide), Nat.div_one, Nat.mod_one]
  exact Nat.mod_eq_of_lt hlt

/-- A byte is its own sample of eight bits. -/
theorem toByte_eight (b : UInt8) : toByte 8 b.toNat = b := by
  unfold toByte
  rw [if_neg (by decide), show 1 <<< 8 - 1 = 255 from rfl, Nat.mul_div_cancel _ (by decide)]
  exact UInt8.ofNat_toNat

/-- The bytes of pixels, four for each. -/
theorem getD_flatMap_channels {pixels : List Pixel} {x i : Nat} (hx : x < pixels.length)
    (hi : i < 4) (d : UInt8) :
    (pixels.flatMap Pixel.channels).getD (x * 4 + i) d = pixels[x].channels.getD i d := by
  -- the four bytes of the first pixel are passed with each step of the column
  induction pixels generalizing x with
  | nil => cases hx
  | cons p rest ih =>
    have hlength : p.channels.length = 4 := rfl
    rw [List.flatMap_cons]
    cases x with
    | zero =>
      rw [Nat.zero_mul, Nat.zero_add, List.getD_append _ _ _ _ (hlength.symm ▸ hi)]
      rfl
    | succ x =>
      rw [List.getD_append_right _ _ _ _ (by omega), hlength,
        show (x + 1) * 4 + i - 4 = x * 4 + i by omega, ih (Nat.lt_of_succ_lt_succ hx)]
      rfl

/-- The pixels of a row are those that its bytes were written from. -/
theorem pixelAt_flatMap_channels {c : Coloring} (hdepth : c.header.depth = 8)
    (hcolor : c.header.color = .rgbAlpha) {pixels : List Pixel} {x : Nat} (hx : x < pixels.length) :
    c.pixelAt (pixels.flatMap Pixel.channels).toArray x = pixels[x] := by
  have hbyte : ∀ i < 4, toByte 8 (sampleAt 8 (pixels.flatMap Pixel.channels).toArray (x * 4 + i)) =
      pixels[x].channels.getD i 0 := by
    intro i hi
    rw [sampleAt_eight, toByte_eight, ← getD_flatMap_channels hx hi 0]
    simp
  unfold Coloring.pixelAt
  dsimp only
  rw [hdepth, hcolor]
  dsimp only [ColorKind.samples]
  rw [hbyte 0 (by decide), hbyte 1 (by decide), hbyte 2 (by decide), hbyte 3 (by decide)]
  rfl

/-- The rows of an image stand for its pixels. -/
theorem pixelOf_rowOf {c : Coloring} (hdepth : c.header.depth = 8)
    (hcolor : c.header.color = .rgbAlpha) (img : Image) {x y : Nat} (hx : x < img.width.toNat)
    (hy : y < img.height.toNat) :
    c.pixelOf [⟨Grid.whole,
      ((List.range img.height.toNat).map fun y => (rowOf img y).toArray).toArray⟩] x y =
      img.get x y hx hy := by
  have hcontains : Grid.whole.contains x y = true := by
    simp [Grid.whole, Grid.contains, Nat.mod_one]
  have hfind (rows : Array (Array UInt8)) :
      [(⟨Grid.whole, rows⟩ : Pass)].find? (·.grid.contains x y) = some ⟨Grid.whole, rows⟩ :=
    List.find?_cons_of_pos hcontains
  have hlength : x < (pixelsOf img y).length := (length_pixelsOf hy).symm ▸ hx
  have hrow : ((List.range img.height.toNat).map fun y => (rowOf img y).toArray).toArray.getD y
      #[] = (rowOf img y).toArray := by
    simp [hy]
  have hpixel : (pixelsOf img y)[x] = img.get x y hx hy := by
    unfold pixelsOf Image.get
    simp
  unfold Coloring.pixelOf
  rw [hfind]
  dsimp only [Grid.whole]
  rw [Nat.div_one, Nat.div_one, hrow, rowOf, pixelAt_flatMap_channels hdepth hcolor hlength, hpixel]

end VisualRegression.Png
