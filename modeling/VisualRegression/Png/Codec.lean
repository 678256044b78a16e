import VisualRegression.Image.Codec
import VisualRegression.Png.Chunk
import VisualRegression.Png.Inflate
import VisualRegression.Png.Pass

/-!
# Image files

An image as a file of chunks: a signature, the header, perhaps a palette and transparent colours,
the compressed rows, and an end. Files of every colour kind, depth and order of rows are read; what
is written has four samples of eight bits, rows as they are, and blocks of bytes as they are.
-/

namespace VisualRegression.Png

/-- The bytes that each file begins with. -/
def signature : List UInt8 := [137, 80, 78, 71, 13, 10, 26, 10]

/-- What a file says before its compressed rows. -/
structure Preamble where
  header : Header
  palette : Option (Array UInt8)
  transparency : Option (Array UInt8)

namespace Preamble

/-- Takes in a chunk that is not compressed rows. -/
def add? (p : Preamble) (c : Chunk) : Option Preamble :=
  match c.kind with
  | .header | .ending | .content => none
  | .palette =>
    match p.palette with
    | some _ => none
    | none => some { p with palette := some c.data.toArray }
  | .transparency =>
    let fits : Bool :=
      match p.header.color with
      | .gray => 2 ≤ c.data.length
      | .rgb => 6 ≤ c.data.length
      | .indexed => p.palette.isSome
      | .grayAlpha | .rgbAlpha => false
    if p.transparency.isNone ∧ fits then some { p with transparency := some c.data.toArray }
    else none
  | .other _ => some p

/-- What samples stand for. A palette has to be there if samples refer to one. -/
def coloring? (p : Preamble) : Option Coloring :=
  if p.header.color = .indexed ∧ p.palette.isNone then none
  else some ⟨p.header, p.palette.getD #[], p.transparency⟩

end Preamble

/-- Reads the compressed rows, which may be split over chunks that follow each other. Another chunk
has to begin after them. -/
def readContent? (bytes : List UInt8) : Option (List UInt8) :=
  match Chunk.readHead? bytes with
  | none => none
  | some (_, kind, _) =>
    if kind = .content then
      match _h : Chunk.read? bytes with
      | some (c, rest) => (c.data ++ ·) <$> readContent? rest
      | none => none
    else some []
termination_by bytes.length
decreasing_by exact Chunk.read?_length _h

/-- Reads chunks up to the compressed rows, and these. -/
def readChunks? (p : Preamble) (bytes : List UInt8) : Option (Preamble × List UInt8) :=
  match _h : Chunk.read? bytes with
  | none => none
  | some (c, rest) =>
    if c.kind = .content then (fun content => (p, content)) <$> readContent? bytes
    else
      match p.add? c with
      | some p => readChunks? p rest
      | none => none
termination_by bytes.length
decreasing_by exact Chunk.read?_length _h

/-- Reads the image in a file. -/
def decode? (bytes : List UInt8) : Option Image := do
  if signature.isPrefixOf bytes then
    let (first, rest) ← Chunk.read? (bytes.drop signature.length)
    if first.kind = .header then
      let header ← Header.read? first.data
      let (preamble, content) ← readChunks? ⟨header, none, none⟩ rest
      let coloring ← preamble.coloring?
      let data ← inflate? content
      let grids := if header.interlaced then Grid.passes else [Grid.whole]
      let passes ← readPasses? header grids data.toList
      return Image.ofFn header.width header.height (coloring.pixelOf passes)
    else none
  else none

/-- The most bytes in a block of bytes as they are. -/
def maxStored : Nat := 65535

/-- Bytes as blocks of bytes as they are; the last block says that it is the last. -/
def storedBlocks (bytes : List UInt8) : List (List UInt8) :=
  let data := bytes.take maxStored
  let rest := bytes.drop maxStored
  let header (last : UInt8) : List UInt8 :=
    [last, UInt8.ofNat data.length, UInt8.ofNat (data.length / 256),
      UInt8.ofNat (65535 - data.length), UInt8.ofNat ((65535 - data.length) / 256)]
  if _h : rest = [] then [header 1 ++ data]
  else (header 0 ++ data) :: storedBlocks rest
termination_by bytes.length
decreasing_by
  have := List.length_pos_iff.2 _h
  simp only [rest, List.length_drop, maxStored] at this ⊢
  omega

/-- The rows of an image in a file, as they are. -/
def rowBytes (img : Image) : List UInt8 :=
  (List.range img.height.toNat).flatMap fun y =>
    0 :: (img.pixels.extract (y * img.width.toNat) ((y + 1) * img.width.toNat)).toList.flatMap
      Pixel.channels

/-- The header of the file of an image. -/
def headerOf (img : Image) : Header := ⟨img.width, img.height, 8, .rgbAlpha, false⟩

/-- The file of an image that has pixels. -/
def encode (img : Image) : Except CodecFault (List UInt8) :=
  if img.isEmpty then .error .unwritable
  else
    let data := rowBytes img
    let parts := [120, 1] :: storedBlocks data ++ [wordBytes (adler data)]
    .ok (signature ++ Chunk.write ⟨.header, (headerOf img).write⟩ ++
      (parts.flatMap fun part => Chunk.write ⟨.content, part⟩) ++ Chunk.write ⟨.ending, []⟩)

/-- Image files. -/
def codec : ImageCodec where
  encode
  decode bytes := (decode? bytes).elim (.error .unreadable) .ok

end VisualRegression.Png
