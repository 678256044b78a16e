/-!
# Images

A rectangular image with four channels of eight bits, row by row. The number of pixels always fits
the size. Main statements: `get_ofFn`, `get_mapPixels` and `get_rows` give the pixels of built
images, `pixels_stack` those of images put below each other, and `toBytes_ofBytes` says that an
image holds exactly the bytes it was read from.
-/

namespace VisualRegression

/-- A colour with its opacity. -/
structure Pixel where
  red : UInt8
  green : UInt8
  blue : UInt8
  alpha : UInt8
deriving DecidableEq, Inhabited, Repr

namespace Pixel

/-- The channels in the order in which they are stored. -/
def channels (p : Pixel) : List UInt8 := [p.red, p.green, p.blue, p.alpha]

/-- The colour that covers what is below it. -/
def solid (red green blue : UInt8) : Pixel := ⟨red, green, blue, 255⟩

/-- The colour of an empty canvas. -/
def transparent : Pixel := ⟨0, 0, 0, 0⟩

/-- The pixels of a run of bytes; up to three bytes at its end are no pixel. -/
def ofBytes : List UInt8 → List Pixel
  | r :: g :: b :: a :: rest => ⟨r, g, b, a⟩ :: ofBytes rest
  | _ => []

theorem length_ofBytes : ∀ bytes : List UInt8, (ofBytes bytes).length = bytes.length / 4
  | r :: g :: b :: a :: rest => by
    simp only [ofBytes, List.length_cons, length_ofBytes rest]; omega
  | [] => rfl
  | [_] => by simp [ofBytes]
  | [_, _] => by simp [ofBytes]
  | [_, _, _] => by simp [ofBytes]

theorem flatMap_channels_ofBytes :
    ∀ {bytes : List UInt8} {n : Nat}, bytes.length = 4 * n →
      (ofBytes bytes).flatMap channels = bytes
  | [], _, _ => rfl
  | r :: g :: b :: a :: rest, n, h => by
    have h' : rest.length = 4 * (n - 1) := by simp at h; omega
    simp [ofBytes, channels, flatMap_channels_ofBytes h']
  | [_], _, h => by simp at h; omega
  | [_, _], _, h => by simp at h; omega
  | [_, _, _], _, h => by simp at h; omega

end Pixel

/-- An image: its size and its pixels, row by row. -/
structure Image where
  width : UInt32
  height : UInt32
  pixels : Array Pixel
  /-- There is one pixel for each position. -/
  size_eq : pixels.size = width.toNat * height.toNat
deriving DecidableEq

/-- Why bytes are no image of a given size. -/
structure ImageFault where
  width : UInt32
  height : UInt32
  /-- The number of bytes given. -/
  length : Nat
deriving DecidableEq, Repr

namespace ImageFault

/-- The fault in words. -/
def message (f : ImageFault) : String :=
  "pixel buffer of " ++ toString f.length ++ " bytes does not fit a " ++
    toString f.width.toNat ++ "x" ++ toString f.height.toNat ++ " RGBA image"

end ImageFault

namespace Image

theorem index_lt {w h x y : Nat} (hx : x < w) (hy : y < h) : y * w + x < w * h := by
  have : (y + 1) * w ≤ h * w := Nat.mul_le_mul_right w hy
  rw [Nat.add_mul, Nat.one_mul] at this
  rw [Nat.mul_comm w h]
  omega

/-- The image whose pixel in column `x` and row `y` is `f x y`. -/
def ofFn (width height : UInt32) (f : Nat → Nat → Pixel) : Image where
  width
  height
  pixels := Array.ofFn (n := width.toNat * height.toNat) fun i =>
    f (i % width.toNat) (i / width.toNat)
  size_eq := Array.size_ofFn

/-- The image of one colour. -/
def filled (width height : UInt32) (color : Pixel) : Image where
  width
  height
  pixels := Array.replicate (width.toNat * height.toNat) color
  size_eq := Array.size_replicate

/-- The pixel in column `x` and row `y`. -/
def get (img : Image) (x y : Nat) (hx : x < img.width.toNat) (hy : y < img.height.toNat) : Pixel :=
  have : y * img.width.toNat + x < img.pixels.size := img.size_eq ▸ index_lt hx hy
  img.pixels[y * img.width.toNat + x]

/-- The pixel in column `x` and row `y`, if the position is inside. -/
def get? (img : Image) (x y : Nat) : Option Pixel :=
  if h : x < img.width.toNat ∧ y < img.height.toNat then some (img.get x y h.1 h.2) else none

/-- Width and height. -/
def dimensions (img : Image) : UInt32 × UInt32 := (img.width, img.height)

/-- The number of pixels. -/
def pixelCount (img : Image) : Nat := img.width.toNat * img.height.toNat

/-- The image has no pixel. -/
def isEmpty (img : Image) : Bool := img.pixelCount == 0

/-- The bytes of all channels, row by row. -/
def toBytes (img : Image) : List UInt8 := img.pixels.toList.flatMap Pixel.channels

/-- The image with these bytes, if there are four for each position. -/
def ofBytes (width height : UInt32) (bytes : List UInt8) : Except ImageFault Image :=
  if h : bytes.length = 4 * (width.toNat * height.toNat) then
    .ok
      { width
        height
        pixels := (Pixel.ofBytes bytes).toArray
        size_eq := by simp [Pixel.length_ofBytes, h] }
  else .error ⟨width, height, bytes.length⟩

/-- Each pixel changed by `f`, which is given its column, its row and the pixel. -/
def mapPixels (img : Image) (f : Nat → Nat → Pixel → Pixel) : Image :=
  { img with
    pixels := img.pixels.mapIdx fun i p => f (i % img.width.toNat) (i / img.width.toNat) p
    size_eq := by rw [Array.size_mapIdx, img.size_eq] }

/-- The rows from `top` on, `count` of them. -/
def rows (img : Image) (top count : Nat) (h : top + count ≤ img.height.toNat) : Image where
  width := img.width
  height := UInt32.ofNat count
  pixels := img.pixels.extract (top * img.width.toNat) ((top + count) * img.width.toNat)
  size_eq := by
    have hc : count < UInt32.size := by have := img.height.toNat_lt; simp only [UInt32.size]; omega
    rw [Array.size_extract, img.size_eq, Nat.mul_comm img.width.toNat img.height.toNat,
      Nat.min_eq_left (Nat.mul_le_mul_right _ h), Nat.add_mul, UInt32.toNat_ofNat_of_lt' hc,
      Nat.mul_comm img.width.toNat]
    omega

/-- The height of images below each other. -/
def totalHeight (parts : List Image) : Nat :=
  parts.foldr (fun p height => p.height.toNat + height) 0

theorem size_flatMap_pixels {width : UInt32} {parts : List Image}
    (h : ∀ p ∈ parts, p.width = width) :
    (parts.flatMap fun p => p.pixels.toList).length = width.toNat * totalHeight parts := by
  induction parts with
  | nil => simp [totalHeight]
  | cons p rest ih =>
    rw [List.flatMap_cons, List.length_append, ih fun q hq => h q (List.mem_cons_of_mem _ hq),
      show totalHeight (p :: rest) = p.height.toNat + totalHeight rest from rfl, Nat.mul_add,
      Array.length_toList, p.size_eq, h p List.mem_cons_self]

/-- Images of one width below each other, if their heights add up to a height. -/
def stack (width : UInt32) (parts : List Image) (hw : ∀ p ∈ parts, p.width = width)
    (hh : totalHeight parts < UInt32.size) : Image where
  width
  height := UInt32.ofNat (totalHeight parts)
  pixels := (parts.flatMap fun p => p.pixels.toList).toArray
  size_eq := by
    rw [List.size_toArray, size_flatMap_pixels hw, UInt32.toNat_ofNat_of_lt' hh]

theorem ext_pixels {a b : Image} (hd : a.dimensions = b.dimensions) (hp : a.pixels = b.pixels) :
    a = b := by
  cases a; cases b
  simp_all [dimensions]

theorem mod_index {w x y : Nat} (hx : x < w) : (y * w + x) % w = x := by
  rw [Nat.mul_comm, Nat.mul_add_mod, Nat.mod_eq_of_lt hx]

theorem div_index {w x y : Nat} (hx : x < w) : (y * w + x) / w = y := by
  rw [Nat.mul_comm, Nat.mul_add_div (by omega), Nat.div_eq_of_lt hx, Nat.add_zero]

/-- A built image has the pixels it was built with. -/
@[simp] theorem get_ofFn (width height : UInt32) (f : Nat → Nat → Pixel) {x y : Nat}
    (hx : x < width.toNat) (hy : y < height.toNat) :
    (ofFn width height f).get x y hx hy = f x y := by
  simp [get, ofFn, mod_index hx, div_index hx]

/-- A change of all pixels changes each by its own position. -/
@[simp] theorem get_mapPixels (img : Image) (f : Nat → Nat → Pixel → Pixel) {x y : Nat}
    (hx : x < img.width.toNat) (hy : y < img.height.toNat) :
    (img.mapPixels f).get x y hx hy = f x y (img.get x y hx hy) := by
  simp [get, mapPixels, mod_index hx, div_index hx]

theorem height_rows (img : Image) {top count : Nat} (h : top + count ≤ img.height.toNat) :
    (img.rows top count h).height.toNat = count :=
  UInt32.toNat_ofNat_of_lt' (by have := img.height.toNat_lt; simp only [UInt32.size]; omega)

/-- Row `y` of a part is row `top + y` of the whole. -/
theorem get_rows (img : Image) {top count : Nat} (h : top + count ≤ img.height.toNat)
    {x y : Nat} (hx : x < img.width.toNat) (hy : y < (img.rows top count h).height.toNat) :
    (img.rows top count h).get x y hx hy =
      img.get x (top + y) hx (by rw [height_rows] at hy; omega) := by
  simp only [get, rows, Array.getElem_extract]
  congr 1
  rw [Nat.add_mul]
  omega

/-- The pixels of a stack are those of its parts, in order. -/
@[simp] theorem pixels_stack (width : UInt32) (parts : List Image)
    (hw : ∀ p ∈ parts, p.width = width)
    (hh : totalHeight parts < UInt32.size) :
    (stack width parts hw hh).pixels.toList = parts.flatMap fun p => p.pixels.toList := by
  simp [stack]

/-- An image holds exactly the bytes it was read from. -/
theorem toBytes_ofBytes {width height : UInt32} {bytes : List UInt8} {img : Image}
    (h : ofBytes width height bytes = .ok img) : img.toBytes = bytes := by
  simp only [ofBytes] at h
  split at h
  · rename_i hl
    cases h
    simp [toBytes, Pixel.flatMap_channels_ofBytes hl]
  · cases h

end Image

end VisualRegression
