import VisualRegression.Png.Checksum

/-!
# Headers

The properties of an image in a file: its size, how samples make a pixel, the bits of a sample, and
whether the rows come in passes of increasing detail. Main statement: `read?_write`.
-/

namespace VisualRegression.Png

/-- How samples make a pixel. -/
inductive ColorKind where
  | gray
  | rgb
  /-- One sample, which refers to a palette. -/
  | indexed
  | grayAlpha
  | rgbAlpha
deriving DecidableEq

namespace ColorKind

/-- The number of a kind in a header. -/
def code : ColorKind → UInt8
  | .gray => 0
  | .rgb => 2
  | .indexed => 3
  | .grayAlpha => 4
  | .rgbAlpha => 6

/-- The kind with a number. -/
def ofCode? (c : UInt8) : Option ColorKind :=
  [gray, rgb, indexed, grayAlpha, rgbAlpha].find? (·.code == c)

/-- The number of samples of a pixel. -/
def samples : ColorKind → Nat
  | .gray | .indexed => 1
  | .grayAlpha => 2
  | .rgb => 3
  | .rgbAlpha => 4

/-- The numbers of bits that a sample can have. -/
def depths : ColorKind → List Nat
  | .gray => [1, 2, 4, 8, 16]
  | .indexed => [1, 2, 4, 8]
  | .rgb | .grayAlpha | .rgbAlpha => [8, 16]

end ColorKind

/-- The properties of an image in a file. -/
structure Header where
  width : UInt32
  height : UInt32
  /-- The bits of a sample. -/
  depth : Nat
  color : ColorKind
  /-- The rows come in passes. -/
  interlaced : Bool
deriving DecidableEq

namespace Header

/-- The bytes of a header. -/
def write (h : Header) : List UInt8 :=
  wordBytes h.width.toNat ++ (wordBytes h.height.toNat ++
    [UInt8.ofNat h.depth, h.color.code, 0, 0, if h.interlaced then 1 else 0])

/-- Reads a header; further bytes do not count. An image in a file has pixels. -/
def read? (bytes : List UInt8) : Option Header := do
  let (width, rest) ← word? bytes
  let (height, rest) ← word? rest
  match rest with
  | depth :: color :: compression :: filter :: interlace :: _ =>
    let color ← ColorKind.ofCode? color
    if width ≠ 0 ∧ height ≠ 0 ∧ depth.toNat ∈ color.depths ∧ compression = 0 ∧ filter = 0 ∧
        interlace ≤ 1 then
      some ⟨UInt32.ofNat width, UInt32.ofNat height, depth.toNat, color, interlace == 1⟩
    else none
  | _ => none

/-- The bytes that a row of `width` pixels takes. -/
def rowLength (h : Header) (width : Nat) : Nat := (width * h.color.samples * h.depth + 7) / 8

/-- The distance between the bytes that stand for neighbouring pixels. -/
def pixelLength (h : Header) : Nat := (h.color.samples * h.depth + 7) / 8

/-- A header that is written is read back, if the image has pixels and the depth suits the colour.
-/
theorem read?_write {h : Header} (hw : h.width ≠ 0) (hh : h.height ≠ 0)
    (hd : h.depth ∈ h.color.depths) (rest : List UInt8) : read? (h.write ++ rest) = some h := by
  have h8 : h.depth < 256 := by
    cases hc : h.color <;> simp only [hc, ColorKind.depths, List.mem_cons, List.not_mem_nil,
      or_false] at hd <;> omega
  have hw' : h.width.toNat ≠ 0 := fun e => hw (UInt32.toNat_inj.1 e)
  have hh' : h.height.toNat ≠ 0 := fun e => hh (UInt32.toNat_inj.1 e)
  have hcode : ColorKind.ofCode? h.color.code = some h.color := by cases h.color <;> rfl
  have hn : (UInt8.ofNat h.depth).toNat = h.depth := by
    rw [UInt8.toNat_ofNat']; exact Nat.mod_eq_of_lt h8
  obtain ⟨width, height, depth, color, interlaced⟩ := h
  simp only [read?, write, List.append_assoc, word?_wordBytes (UInt32.toNat_lt _),
    Option.bind_eq_bind, Option.bind_some, List.cons_append, List.nil_append]
  simp only at hcode hn hw' hh' hd
  rw [hcode]
  cases interlaced <;> simp [hn, hw', hh', hd]

end Header

end VisualRegression.Png
