import VisualRegression.BaselineKey
import VisualRegression.Decimal.Style
import VisualRegression.Image.Codec
import VisualRegression.Rect.Text

/-!
# What can go wrong around a capture

The faults of values given from outside (`ValueFault`) and of putting together and comparing
captured images (`CaptureFault`). Each fault is a cause; its words are given once, by `message`.
-/

namespace VisualRegression

/-- A value from outside that is none of its kind. -/
inductive ValueFault where
  | image (fault : ImageFault)
  | rect (fault : RectFault)
  | baselineKey (fault : BaselineKeyFault)
  | codec (fault : CodecFault)
deriving DecidableEq, Repr

namespace ValueFault

/-- The fault in words. -/
def message : ValueFault → String
  | image fault => fault.message
  | rect fault => "invalid rectangle: " ++ fault.message
  | baselineKey fault => "invalid baseline name: " ++ fault.message
  | codec .unreadable => "image codec failure: failed to decode png"
  | codec .unwritable => "image codec failure: failed to encode png"

end ValueFault

/-- A setting of a capture or of a comparison that cannot be honoured. -/
inductive SettingFault where
  /-- The device pixel ratio is no positive number. -/
  | ratioNotPositive (ratio : Float)
  /-- The ratio would blow a tile up beyond the largest allowed image. -/
  | ratioTooFine (ratio : Float) (width height : UInt32)
  /-- The threshold is no percentage. -/
  | percentageTooLarge (percentage : UInt8)
  /-- Any other reason. -/
  | other (reason : String)

namespace SettingFault

/-- The largest number of pixels that scaling may produce. -/
def maxScaledPixels : Nat := 268435456

/-- The fault in words. -/
def message : SettingFault → String
  | ratioNotPositive ratio =>
    "device pixel ratio must be a positive number, got " ++ Decimal.plain.write ratio
  | ratioTooFine ratio width height =>
    "device pixel ratio " ++ Decimal.plain.write ratio ++ " scales a " ++ toString width.toNat ++
      "x" ++ toString height.toNat ++ " tile beyond " ++ toString maxScaledPixels ++ " pixels"
  | percentageTooLarge percentage =>
    "diff percentage must be within 0..=100, got " ++ toString percentage.toNat
  | other reason => reason

end SettingFault

/-- Why captured tiles cannot be put together. -/
inductive StitchFault where
  /-- There is no tile. -/
  | noTiles
  /-- A tile is not as wide as the first one. -/
  | widthDiffers (odd first : UInt32)
  /-- All tiles together are too high for an image. -/
  | tooHigh (height : Nat)
deriving DecidableEq, Repr

namespace StitchFault

/-- The fault in words. -/
def message : StitchFault → String
  | noTiles => "no tiles captured"
  | widthDiffers odd first =>
    "tile width " ++ toString odd.toNat ++ " differs from first tile width " ++
      toString first.toNat
  | tooHigh height => s!"stitched height {height} is too large"

end StitchFault

/-- A size in words. -/
def sizeText (size : UInt32 × UInt32) : String :=
  "(" ++ toString size.1.toNat ++ ", " ++ toString size.2.toNat ++ ")"

/-- Why a capture or a comparison fails. -/
inductive CaptureFault where
  /-- A setting cannot be honoured. -/
  | setting (fault : SettingFault)
  /-- No strategy has this name. -/
  | unknownStrategy (name : String)
  /-- The two images to compare differ in size. -/
  | sizeMismatch (baseline candidate : UInt32 × UInt32)
  /-- The tiles do not fit together. -/
  | stitch (fault : StitchFault)
  /-- A value is none of its kind. -/
  | value (fault : ValueFault)

namespace CaptureFault

/-- The fault in words. -/
def message : CaptureFault → String
  | setting fault => "Invalid configuration: " ++ fault.message
  | unknownStrategy name => s!"Unable to find the strategy with the name: {name}"
  | sizeMismatch baseline candidate =>
    "Image dimensions do not match: baseline is " ++ sizeText baseline ++ ", candidate is " ++
      sizeText candidate
  | stitch fault => "Failed to assemble capture: " ++ fault.message
  | value fault => fault.message

/-- The fault lies in what was asked for, not in what was found. -/
def isConfiguration : CaptureFault → Bool
  | setting _ | unknownStrategy _ => true
  | _ => false

end CaptureFault

end VisualRegression
