import VisualRegression.Capture.Fault

/-!
# Policies

The settings that hold where a check does not say otherwise, and the parameters of one capture.
-/

namespace VisualRegression

/-- The strategy that takes what is visible. -/
def viewportName : String := "viewport"

/-- The strategy that scrolls through the page. -/
def fullPageName : String := "full_page"

/-- A colour without opacity. -/
structure Rgb where
  red : UInt8
  green : UInt8
  blue : UInt8
deriving DecidableEq, Inhabited, Repr

/-- The colour that covers what is below it. -/
def Rgb.toPixel (c : Rgb) : Pixel := Pixel.solid c.red c.green c.blue

/-- The colour of differing pixels where nothing else is asked for. -/
def defaultDiffColor : Rgb := ⟨238, 111, 238⟩

/-- The ratio of physical to logical pixels is a positive number. -/
def isValidRatio (ratio : Float) : Bool := ratio.isFinite && ratio > 0

/-- Refuses a ratio that is no positive number. -/
def checkRatio (ratio : Float) : Except CaptureFault Unit :=
  if isValidRatio ratio then .ok () else .error (.setting (.ratioNotPositive ratio))

/-- The parameters of one capture. -/
structure CaptureParameters where
  /-- Physical pixels for each logical one. -/
  ratio : Float := 1
  /-- Rows cut off at the top of each tile. -/
  headerCut : UInt32 := 0
  /-- Rows cut off at the bottom of each tile. -/
  footerCut : UInt32 := 0
  /-- The name of the strategy that puts the tiles together. -/
  strategy : String := viewportName

instance : Inhabited CaptureParameters := ⟨{}⟩

namespace CaptureParameters

/-- Some rows are cut off. -/
def needsCut (p : CaptureParameters) : Bool := p.headerCut.toNat + p.footerCut.toNat > 0

/-- Refuses parameters whose ratio is no positive number. -/
def validate (p : CaptureParameters) : Except CaptureFault Unit := checkRatio p.ratio

end CaptureParameters

/-- The settings of an engine and of the checks that it runs. Its directory is one whose path is a
text: a path of bytes that are no UTF-8 has no place in a policy. -/
structure Policy where
  ratio : Float := 1
  headerCut : UInt32 := 0
  footerCut : UInt32 := 0
  strategy : String := viewportName
  /-- The largest difference in a channel that does not count. -/
  tolerance : UInt8 := 0
  /-- The colour of differing pixels. -/
  diffColor : Rgb := defaultDiffColor
  /-- The colour of ignored regions. -/
  maskColor : Pixel := ⟨0, 0, 0, 255⟩
  /-- Intermediate images are shown while masking. -/
  debugSnapshots : Bool := false
  /-- The directory of the baseline files. -/
  baselineDir : String := "./baselines"

instance : Inhabited Policy := ⟨{}⟩

/-- The capture parameters of a policy. -/
def Policy.parameters (p : Policy) : CaptureParameters :=
  ⟨p.ratio, p.headerCut, p.footerCut, p.strategy⟩

end VisualRegression
