import VisualRegression.Check.Configuration
import VisualRegression.Wire.Locator

/-!
# Policies, parameters and configurations in JSON

Of a policy and of a configuration any field may be missing and then has its default; capture
parameters have to be complete.
-/

namespace VisualRegression

namespace Rgb

/-- The channels as an array. -/
def toJson (c : Rgb) : Json :=
  .array [.ofNat c.red.toNat, .ofNat c.green.toNat, .ofNat c.blue.toNat]

/-- Reads a colour. -/
def ofJson? (j : Json) : Option Rgb := do
  match ← j.toList? Json.toUInt8? with
  | [red, green, blue] => some ⟨red, green, blue⟩
  | _ => none

end Rgb

namespace Pixel

/-- The channels as an array. -/
def toJson (p : Pixel) : Json := .ofList (fun c => .ofNat c.toNat) p.channels

/-- Reads a colour with its opacity. -/
def ofJson? (j : Json) : Option Pixel := do
  match ← j.toList? Json.toUInt8? with
  | [red, green, blue, alpha] => some ⟨red, green, blue, alpha⟩
  | _ => none

end Pixel

namespace CaptureParameters

/-- The parameters as an object. -/
def toJson (p : CaptureParameters) : Json :=
  .object [("device_pixel_ratio", .ofFloat p.ratio), ("header_cut", .ofNat p.headerCut.toNat),
    ("footer_cut", .ofNat p.footerCut.toNat), ("strategy", .string p.strategy)]

/-- Reads parameters. -/
def ofJson? (j : Json) : Option CaptureParameters := do
  match ← j.fields? ["device_pixel_ratio", "header_cut", "footer_cut", "strategy"] false with
  | [ratio, headerCut, footerCut, strategy] =>
    return {
      ratio := ← Json.required? Json.toFloat? ratio
      headerCut := ← Json.required? Json.toUInt32? headerCut
      footerCut := ← Json.required? Json.toUInt32? footerCut
      strategy := ← Json.required? Json.toString? strategy }
  | _ => none

end CaptureParameters

namespace Policy

/-- The names of the fields, in order. -/
def fieldNames : List String :=
  ["device_pixel_ratio", "header_cut", "footer_cut", "strategy", "pixel_tolerance", "diff_color",
    "mask_color", "debug_snapshots", "baseline_dir"]

/-- The policy as an object. -/
def toJson (p : Policy) : Json :=
  .object [("device_pixel_ratio", .ofFloat p.ratio), ("header_cut", .ofNat p.headerCut.toNat),
    ("footer_cut", .ofNat p.footerCut.toNat), ("strategy", .string p.strategy),
    ("pixel_tolerance", .ofNat p.tolerance.toNat), ("diff_color", p.diffColor.toJson),
    ("mask_color", p.maskColor.toJson), ("debug_snapshots", .bool p.debugSnapshots),
    ("baseline_dir", .string p.baselineDir)]

/-- Reads a policy. -/
def ofJson? (j : Json) : Option Policy := do
  let d : Policy := {}
  match ← j.fields? fieldNames true with
  | [ratio, headerCut, footerCut, strategy, tolerance, diffColor, maskColor, debugSnapshots,
      baselineDir] =>
    return {
      ratio := ← Json.orDefault? d.ratio Json.toFloat? ratio
      headerCut := ← Json.orDefault? d.headerCut Json.toUInt32? headerCut
      footerCut := ← Json.orDefault? d.footerCut Json.toUInt32? footerCut
      strategy := ← Json.orDefault? d.strategy Json.toString? strategy
      tolerance := ← Json.orDefault? d.tolerance Json.toUInt8? tolerance
      diffColor := ← Json.orDefault? d.diffColor Rgb.ofJson? diffColor
      maskColor := ← Json.orDefault? d.maskColor Pixel.ofJson? maskColor
      debugSnapshots := ← Json.orDefault? d.debugSnapshots Json.toBool? debugSnapshots
      baselineDir := ← Json.orDefault? d.baselineDir Json.toString? baselineDir }
  | _ => none

end Policy

namespace CaptureConfiguration

/-- The configuration as an object. -/
def toJson (c : CaptureConfiguration) : Json :=
  .object [("device_pixel_ratio", .ofOption .ofFloat c.ratio),
    ("header_cut", .ofOption (fun n => .ofNat n.toNat) c.headerCut),
    ("footer_cut", .ofOption (fun n => .ofNat n.toNat) c.footerCut),
    ("strategy", .ofOption .string c.strategy),
    ("element_ignores", Locator.setToJson c.elementIgnores),
    ("area_ignores", Locator.setToJson c.areaIgnores)]

/-- Reads a configuration. -/
def ofJson? (j : Json) : Option CaptureConfiguration := do
  match ← j.fields? ["device_pixel_ratio", "header_cut", "footer_cut", "strategy",
      "element_ignores", "area_ignores"] true with
  | [ratio, headerCut, footerCut, strategy, elementIgnores, areaIgnores] =>
    return {
      ratio := ← Json.optional? Json.toFloat? ratio
      headerCut := ← Json.optional? Json.toUInt32? headerCut
      footerCut := ← Json.optional? Json.toUInt32? footerCut
      strategy := ← Json.optional? Json.toString? strategy
      elementIgnores := ← Json.orDefault? ∅ Locator.setOfJson? elementIgnores
      areaIgnores := ← Json.orDefault? ∅ Locator.setOfJson? areaIgnores }
  | _ => none

end CaptureConfiguration

end VisualRegression
