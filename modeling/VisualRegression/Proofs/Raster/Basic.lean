import Mathlib.Algebra.Order.Ring.Nat
import VisualRegression.Policy
import VisualRegression.Proofs.Image

/-!
# Images as bytes

An `Image` has a pixel at each of its positions and none elsewhere, by its type.  In memory it is a
`Raster`: a size and bytes, of which nothing ensures that they fit together.  Each operation on a
raster states what it relies on and stops with a trap where that is not so: where a pixel outside is
read or written, a difference falls below zero, a size leaves its type.  A trap is not a fault: what
can be reported to a caller is a `CaptureFault`.

Main statements: `Raster.isWhole_iff` says that the rasters of images are those with four bytes for
each position, and `Image.read_toRaster` and `Image.write_toRaster` that in them no read or write
inside the image can be trapped.
-/

namespace VisualRegression

/-- What an operation on bytes relies on and does not find. -/
inductive Trap where
  /-- A position that is read or written lies outside of the image. -/
  | outsideImage (x y : Nat)
  /-- The bytes of a pixel lie outside of the buffer. -/
  | outsideBuffer
  /-- The buffer of an image that is passed on has not four bytes for each position. -/
  | misfit
  /-- A difference is below zero. -/
  | underflow
  /-- A number is too large for its type. -/
  | overflow
  /-- A rectangle to fill has no pixel or is not inside of the image. -/
  | rectangle (r : Rect)
deriving DecidableEq

/-- Why a computation ends without a result. -/
inductive Stop where
  | trap (t : Trap)
  | fault (f : CaptureFault)

/-- A computation that checks what it relies on. -/
abbrev Checked := Except Stop

namespace Checked

variable {α β : Type}

/-- A computation that is not trapped, with this outcome. -/
def of (outcome : Except CaptureFault α) : Checked α := outcome.mapError .fault

theorem of_ne_trap (outcome : Except CaptureFault α) (t : Trap) :
    of outcome ≠ .error (.trap t) := by
  cases outcome <;> nofun

theorem of_eq_ok {outcome : Except CaptureFault α} {a : α} (h : of outcome = .ok a) :
    outcome = .ok a := by
  cases outcome with
  | ok => cases h; rfl
  | error => cases h

/-- A computation on each member of a list is untrapped if each one is. -/
theorem mapM_eq_of {γ δ : Type} {view : α → γ} {view' : β → δ} {f : γ → Checked δ}
    {g : α → Except CaptureFault β} (l : List α)
    (h : ∀ a ∈ l, f (view a) = of ((g a).map view')) :
    (l.map view).mapM f = of ((l.mapM g).map (List.map view')) := by
  induction l with
  | nil => rfl
  | cons a l ih =>
    rw [List.map_cons, List.mapM_cons, List.mapM_cons, h a List.mem_cons_self,
      ih fun b hb => h b (List.mem_cons_of_mem _ hb)]
    rcases g a with _ | b
    · rfl
    · rcases l.mapM g with _ | bs <;> rfl

/-- A difference that must not be below zero. -/
def sub (a b : Nat) : Checked Nat := if b ≤ a then .ok (a - b) else .error (.trap .underflow)

theorem sub_of_le {a b : Nat} (h : b ≤ a) : sub a b = .ok (a - b) := if_pos h

/-- A number that must be below a bound. -/
def below (bound n : Nat) : Checked Nat := if n < bound then .ok n else .error (.trap .overflow)

theorem below_of_lt {bound n : Nat} (h : n < bound) : below bound n = .ok n := if_pos h

end Checked

/-- A size and the bytes of an image, row by row; nothing ensures that they fit together. -/
structure Raster where
  width : UInt32
  height : UInt32
  bytes : List UInt8
deriving DecidableEq

namespace Raster

/-- The number of bytes that an image of the size has. -/
def byteCount (width height : UInt32) : Nat := 4 * (width.toNat * height.toNat)

/-- **There are four bytes for each position.** -/
def IsWhole (r : Raster) : Prop := r.bytes.length = byteCount r.width r.height

instance (r : Raster) : Decidable r.IsWhole := inferInstanceAs (Decidable (_ = _))

/-- The position lies in the image. -/
def HasPosition (r : Raster) (x y : Nat) : Prop := x < r.width.toNat ∧ y < r.height.toNat

instance (r : Raster) (x y : Nat) : Decidable (r.HasPosition x y) :=
  inferInstanceAs (Decidable (_ ∧ _))

/-- The place of the first byte of a position. -/
def place (r : Raster) (x y : Nat) : Nat := 4 * (y * r.width.toNat + x)

/-- Reads the four bytes of a position. -/
def read (r : Raster) (x y : Nat) : Checked Pixel :=
  if r.HasPosition x y then
    match r.bytes.drop (r.place x y) with
    | red :: green :: blue :: alpha :: _ => .ok ⟨red, green, blue, alpha⟩
    | _ => .error (.trap .outsideBuffer)
  else .error (.trap (.outsideImage x y))

/-- Writes the four bytes of a position. -/
def write (r : Raster) (x y : Nat) (p : Pixel) : Checked Raster :=
  if r.HasPosition x y then
    if r.place x y + 4 ≤ r.bytes.length then
      .ok { r with bytes :=
        r.bytes.take (r.place x y) ++ (p.channels ++ r.bytes.drop (r.place x y + 4)) }
    else .error (.trap .outsideBuffer)
  else .error (.trap (.outsideImage x y))

/-- A new raster of zeros. -/
def blank (width height : UInt32) : Checked Raster := do
  let size ← Checked.below (2 ^ 64) (byteCount width height)
  return ⟨width, height, .replicate size 0⟩

/-- The raster as it is passed on to what comes next. -/
def passOn (r : Raster) : Checked Raster :=
  if r.IsWhole then .ok r else .error (.trap .misfit)

/-- Takes bytes for an image of a size. -/
def accept (r : Raster) : Checked Raster := do
  let expected ← Checked.below (2 ^ 64) (byteCount r.width r.height)
  if r.bytes.length = expected then .ok r
  else .error (.fault (.value (.image ⟨r.width, r.height, r.bytes.length⟩)))

/-- The image that the bytes are, if their number is right. -/
def image (r : Raster) : Except CaptureFault Image :=
  (Image.ofBytes r.width r.height r.bytes).mapError (.value ∘ .image)

end Raster

namespace Image

variable {img : Image} {x y : Nat} {p : Pixel}

/-- The image in memory. -/
def toRaster (img : Image) : Raster := ⟨img.width, img.height, img.toBytes⟩

theorem length_flatMap_channels (l : List Pixel) :
    (l.flatMap Pixel.channels).length = 4 * l.length := by
  induction l with
  | nil => rfl
  | cons p l ih =>
    rw [List.flatMap_cons, List.length_append, ih, List.length_cons, Pixel.channels]
    simp only [List.length_cons, List.length_nil]
    omega

theorem length_toBytes (img : Image) :
    img.toBytes.length = Raster.byteCount img.width img.height := by
  unfold Raster.byteCount
  rw [← img.size_eq]
  exact length_flatMap_channels img.pixels.toList

/-- The raster of an image is whole. -/
theorem isWhole_toRaster (img : Image) : img.toRaster.IsWhole := img.length_toBytes

theorem passOn_toRaster (img : Image) : img.toRaster.passOn = .ok img.toRaster :=
  if_pos img.isWhole_toRaster

/-- **The numbers told of an image are in the range of their types**: its sides have a sign and 32
bits, and a hundred times its area has 64 bits. -/
structure InRange (img : Image) : Prop where
  width_lt : img.width.toNat < 2 ^ 31
  height_lt : img.height.toNat < 2 ^ 31
  area_lt : 100 * img.pixelCount < 2 ^ 64

/-- It is the size that counts. -/
theorem InRange.of_sides_eq {other : Image} (h : img.InRange) (hw : other.width = img.width)
    (hh : other.height = img.height) : other.InRange := by
  obtain ⟨hwidth, hheight, harea⟩ := h
  unfold pixelCount at harea
  rw [← hw, ← hh] at harea
  exact ⟨hw ▸ hwidth, hh ▸ hheight, harea⟩

theorem InRange.byteCount_lt (h : img.InRange) :
    Raster.byteCount img.width img.height < 2 ^ 64 := by
  have harea := h.area_lt
  unfold pixelCount at harea
  unfold Raster.byteCount
  omega

/-! ## Reading and writing -/

theorem drop_flatMap_channels (i : Nat) (l : List Pixel) :
    (l.flatMap Pixel.channels).drop (4 * i) = (l.drop i).flatMap Pixel.channels := by
  induction i generalizing l with
  | zero => rfl
  | succ i ih =>
    cases l with
    | nil => simp
    | cons p l =>
      rw [List.drop_succ_cons, ← ih l, Nat.mul_succ, Nat.add_comm, ← List.drop_drop]
      rfl

theorem take_flatMap_channels (i : Nat) (l : List Pixel) :
    (l.flatMap Pixel.channels).take (4 * i) = (l.take i).flatMap Pixel.channels := by
  induction i generalizing l with
  | zero => simp
  | succ i ih =>
    cases l with
    | nil => simp
    | cons p l =>
      have hfirst : p.channels.length ≤ 4 * (i + 1) :=
        Nat.le_mul_of_pos_right 4 (Nat.succ_pos i)
      rw [List.take_succ_cons, List.flatMap_cons, List.flatMap_cons, ← ih l, List.take_append,
        List.take_of_length_le hfirst]
      simp [Pixel.channels, Nat.mul_succ]

/-- **A read inside of an image** gives the pixel there. -/
theorem read_toRaster (hx : x < img.width.toNat) (hy : y < img.height.toNat) :
    img.toRaster.read x y = .ok (img.get x y hx hy) := by
  have hi : y * img.width.toNat + x < img.pixels.toList.length := by
    rw [Array.length_toList, img.size_eq]
    exact index_lt hx hy
  have hbytes : img.toRaster.bytes.drop (img.toRaster.place x y) =
      (img.get x y hx hy).channels ++
        (img.pixels.toList.drop (y * img.width.toNat + x + 1)).flatMap Pixel.channels := by
    change (img.pixels.toList.flatMap Pixel.channels).drop (4 * (y * img.width.toNat + x)) = _
    rw [drop_flatMap_channels, List.drop_eq_getElem_cons hi, List.flatMap_cons]
    rfl
  unfold Raster.read
  rw [if_pos ⟨hx, hy⟩, hbytes]
  rfl

/-- The image with the pixels at some positions drawn anew. -/
def redraw (img : Image) (positions : List (Nat × Nat)) (color : Nat × Nat → Pixel) : Image :=
  img.mapPixels fun x y p => if (x, y) ∈ positions then color (x, y) else p

/-- The pixels of an image with one of them drawn anew. -/
theorem toList_redraw_singleton (hx : x < img.width.toNat) (color : Nat × Nat → Pixel) :
    (img.redraw [(x, y)] color).pixels.toList =
      img.pixels.toList.set (y * img.width.toNat + x) (color (x, y)) := by
  refine List.ext_getElem (by simp [redraw, mapPixels]) fun k hk hk' => ?_
  have hindex : (k % img.width.toNat, k / img.width.toNat) = (x, y) ↔
      y * img.width.toNat + x = k := by
    rw [Prod.mk.injEq]
    constructor
    · rintro ⟨rfl, rfl⟩
      exact Nat.div_add_mod' k _
    · rintro rfl
      exact ⟨mod_index hx, div_index hx⟩
  simp only [redraw, mapPixels, Array.getElem_toList, Array.getElem_mapIdx, List.mem_singleton,
    List.getElem_set, hindex]
  split
  · rename_i heq
    rw [hindex.2 heq]
  · rfl

/-- **A write inside of an image** draws the pixel there. -/
theorem write_toRaster (hx : x < img.width.toNat) (hy : y < img.height.toNat)
    (color : Nat × Nat → Pixel) :
    img.toRaster.write x y (color (x, y)) = .ok (img.redraw [(x, y)] color).toRaster := by
  have hi : y * img.width.toNat + x < img.pixels.toList.length := by
    rw [Array.length_toList, img.size_eq]
    exact index_lt hx hy
  have hroom : img.toRaster.place x y + 4 ≤ img.toRaster.bytes.length := by
    change 4 * (y * img.width.toNat + x) + 4 ≤ (img.pixels.toList.flatMap Pixel.channels).length
    rw [length_flatMap_channels]
    omega
  have hbytes : (img.redraw [(x, y)] color).toBytes =
      img.toRaster.bytes.take (img.toRaster.place x y) ++
        ((color (x, y)).channels ++ img.toRaster.bytes.drop (img.toRaster.place x y + 4)) := by
    rw [toBytes, toList_redraw_singleton hx, List.set_eq_take_append_cons_drop, if_pos hi,
      List.flatMap_append, List.flatMap_cons, ← take_flatMap_channels, ← drop_flatMap_channels]
    rfl
  unfold Raster.write
  rw [if_pos ⟨hx, hy⟩, if_pos hroom]
  exact congrArg (fun bytes => Except.ok (Raster.mk img.width img.height bytes)) hbytes.symm

end Image

/-! ## Rasters of images -/

namespace Raster

variable {r : Raster} {img : Image} {width height : UInt32}

/-- A new raster is that of a transparent image. -/
theorem blank_of_lt (h : byteCount width height < 2 ^ 64) :
    blank width height = .ok (Image.filled width height .transparent).toRaster := by
  have hzeros (n : Nat) : List.replicate (4 * n) (0 : UInt8) =
      (List.replicate n Pixel.transparent).flatMap Pixel.channels := by
    induction n with
    | zero => rfl
    | succ n ih =>
      rw [List.replicate_succ, List.flatMap_cons, ← ih]
      rfl
  unfold blank
  rw [Checked.below_of_lt h]
  change Except.ok (Raster.mk width height (List.replicate (byteCount width height) 0)) = _
  rw [byteCount, hzeros]
  simp [Image.toRaster, Image.toBytes, Image.filled]

/-- A whole raster is the raster of the image that its bytes are. -/
theorem image_of_isWhole (h : r.IsWhole) : ∃ img, r.image = .ok img ∧ r = img.toRaster := by
  have hbytes : ∃ img, Image.ofBytes r.width r.height r.bytes = .ok img ∧
      img.dimensions = (r.width, r.height) := ⟨_, dif_pos h, rfl⟩
  obtain ⟨img, himg, hdims⟩ := hbytes
  obtain ⟨hwidth, hheight⟩ := Prod.mk.inj hdims
  refine ⟨img, ?_, ?_⟩
  · unfold image
    rw [himg]
    rfl
  · unfold Image.toRaster
    rw [hwidth, hheight, Image.toBytes_ofBytes himg]

/-- Any other bytes are no image of the size. -/
theorem image_of_not_isWhole (h : ¬ r.IsWhole) :
    r.image = .error (.value (.image ⟨r.width, r.height, r.bytes.length⟩)) :=
  congrArg (Except.mapError _) (dif_neg h)

theorem eq_toRaster_of_image (h : r.image = .ok img) : r = img.toRaster := by
  by_cases hwhole : r.IsWhole
  · obtain ⟨img', himg', hr⟩ := image_of_isWhole hwhole
    cases himg'.symm.trans h
    exact hr
  · cases (image_of_not_isWhole hwhole).symm.trans h

/-- **Whole rasters are the rasters of images**, and no others. -/
theorem isWhole_iff : r.IsWhole ↔ ∃ img : Image, r = img.toRaster := by
  constructor
  · intro h
    obtain ⟨img, -, himg⟩ := image_of_isWhole h
    exact ⟨img, himg⟩
  · rintro ⟨img, rfl⟩
    exact img.isWhole_toRaster

/-- **Bytes are taken for an image** exactly where their number is right, and are that image. -/
theorem accept_of_lt (h : byteCount r.width r.height < 2 ^ 64) :
    r.accept = Checked.of (r.image.map Image.toRaster) := by
  unfold accept
  rw [Checked.below_of_lt h]
  by_cases hwhole : r.IsWhole
  · obtain ⟨img, himg, hr⟩ := image_of_isWhole hwhole
    rw [himg]
    exact (if_pos hwhole).trans (congrArg Except.ok hr)
  · rw [image_of_not_isWhole hwhole]
    exact if_neg hwhole

end Raster

end VisualRegression
