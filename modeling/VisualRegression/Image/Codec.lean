import VisualRegression.Image.Basic

/-!
# Image codecs

A file form of images: how they are written as bytes and read again. A codec is lossless if every
image that has pixels can be written and is read back as it was.
-/

namespace VisualRegression

/-- Why an image file could not be read or written. -/
inductive CodecFault where
  /-- The bytes are no image file. -/
  | unreadable
  /-- The image has no pixel and so no file. -/
  | unwritable
deriving DecidableEq, Repr

/-- A file form of images. -/
structure ImageCodec where
  encode : Image → Except CodecFault (List UInt8)
  decode : List UInt8 → Except CodecFault Image

/-- What is written is read back, and exactly the images with pixels can be written. -/
structure ImageCodec.Lossless (c : ImageCodec) : Prop where
  decode_encode : ∀ img : Image, img.isEmpty = false →
    ∃ bytes, c.encode img = .ok bytes ∧ c.decode bytes = .ok img
  encode_empty : ∀ img : Image, img.isEmpty = true → c.encode img = .error .unwritable

end VisualRegression
