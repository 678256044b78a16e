import VisualRegression.Image.Basic
import VisualRegression.Png.Header

/-!
# Samples

The pixels that the samples of a row stand for. A sample is brought to eight bits; a colour that is
named transparent, or a palette, gives the opacity where no sample does.
-/

namespace VisualRegression.Png

/-- What samples stand for. -/
structure Coloring where
  header : Header
  /-- The colours that samples refer to, three bytes each. -/
  palette : Array UInt8
  /-- The opacity of the colours of a palette, or the bytes of the colour that is transparent. -/
  transparency : Option (Array UInt8)

/-- Sample `i` of a row, with `depth` bits. -/
def sampleAt (depth : Nat) (row : Array UInt8) (i : Nat) : Nat :=
  if depth = 16 then (row.getD (2 * i) 0).toNat * 256 + (row.getD (2 * i + 1) 0).toNat
  else
    let perByte := 8 / depth
    (row.getD (i / perByte) 0).toNat >>> (8 - depth * (i % perByte + 1)) % (1 <<< depth)

/-- A sample brought to eight bits: the least stays least and the greatest greatest. -/
def toByte (depth : Nat) (sample : Nat) : UInt8 :=
  if depth = 16 then UInt8.ofNat ((sample + 128) / 257)
  else UInt8.ofNat (sample * 255 / (1 <<< depth - 1))

namespace Coloring

/-- Sample `i` of the colour that is transparent. Of a sample with fewer than 16 bits the second
byte counts. -/
def keySample (c : Coloring) (key : Array UInt8) (i : Nat) : Nat :=
  let low := (key.getD (2 * i + 1) 0).toNat
  if c.header.depth = 16 then (key.getD (2 * i) 0).toNat * 256 + low else low

/-- The opacity of a colour without a sample for it. -/
def keyedAlpha (c : Coloring) (samples : List Nat) : UInt8 :=
  match c.transparency with
  | some key => if samples.zipIdx.all fun (s, i) => c.keySample key i == s then 0 else 255
  | none => 255

/-- The colour that a palette gives for a sample: black where the palette ends. -/
def paletteColor (c : Coloring) (sample : Nat) : Pixel :=
  let opacity := ((c.transparency.getD #[])[sample]?).getD 255
  if 3 * sample + 2 < c.palette.size then
    ⟨c.palette.getD (3 * sample) 0, c.palette.getD (3 * sample + 1) 0,
      c.palette.getD (3 * sample + 2) 0, opacity⟩
  else ⟨0, 0, 0, opacity⟩

/-- The pixel in column `x` of a row. -/
def pixelAt (c : Coloring) (row : Array UInt8) (x : Nat) : Pixel :=
  let depth := c.header.depth
  let sample (i : Nat) : Nat := sampleAt depth row (x * c.header.color.samples + i)
  let byte (i : Nat) : UInt8 := toByte depth (sample i)
  match c.header.color with
  | .gray => ⟨byte 0, byte 0, byte 0, c.keyedAlpha [sample 0]⟩
  | .rgb => ⟨byte 0, byte 1, byte 2, c.keyedAlpha [sample 0, sample 1, sample 2]⟩
  | .indexed => c.paletteColor (sample 0)
  | .grayAlpha => ⟨byte 0, byte 0, byte 0, byte 1⟩
  | .rgbAlpha => ⟨byte 0, byte 1, byte 2, byte 3⟩

end Coloring

end VisualRegression.Png
