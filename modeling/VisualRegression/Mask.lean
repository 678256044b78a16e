import VisualRegression.IgnoreKind
import VisualRegression.Image.Basic
import VisualRegression.Ordered.Set
import VisualRegression.Rect.Basic

/-!
# Masking ignored regions

Ignored regions of an image are filled with one colour, so that they look the same in every image.
The regions are given on the page; an image that starts some rows below the top of the page has them
moved up by so many rows. After each kind of region the image so far is kept as a snapshot. Main
statement: `get_paint` says which pixels a filled rectangle covers.
-/

namespace VisualRegression

/-- The regions to ignore, for each kind. -/
abbrev IgnoreMap := PerKind (OrderedSet Rect)

/-- The image with a rectangle filled. -/
def Image.paint (img : Image) (r : Rect) (color : Pixel) : Image :=
  img.mapPixels fun x y p => if r.Contains x y then color else p

/-- A filled rectangle covers exactly its own pixels. -/
theorem Image.get_paint (img : Image) (r : Rect) (color : Pixel) {x y : Nat}
    (hx : x < img.width.toNat) (hy : y < img.height.toNat) :
    (img.paint r color).get x y hx hy = if r.Contains x y then color else img.get x y hx hy :=
  get_mapPixels img _ hx hy

/-- An image on the way, with a label. -/
structure Snapshot where
  label : String
  image : Image

namespace Mask

/-- The part of a region that an image shows that starts `topAdjustment` rows below the top of the
page. -/
def visible? (width height : UInt32) (topAdjustment : Int32) (r : Rect) : Option Rect :=
  (r.translate 0 (saturate (-topAdjustment.toInt))).clip? width height

/-- The image with the visible parts of regions filled. -/
def fill (color : Pixel) (topAdjustment : Int32) (img : Image) (regions : List Rect) : Image :=
  regions.foldl (fun img r =>
    match visible? img.width img.height topAdjustment r with
    | some r => img.paint r color
    | none => img) img

/-- The label of the snapshot after a kind of region. -/
def label (k : IgnoreKind) : String := "cropped_by_" ++ k.name

/-- The regions of a kind, if there are any. -/
def regions? (ignores : IgnoreMap) (k : IgnoreKind) : Option (List Rect) :=
  (ignores.get? k).bind fun s => if s.isEmpty then none else some s.toList

/-- One kind of region filled, with a snapshot unless it has no region. -/
def step (color : Pixel) (ignores : IgnoreMap) (topAdjustment : Int32)
    (sofar : Image × List Snapshot) (k : IgnoreKind) : Image × List Snapshot :=
  match regions? ignores k with
  | none => sofar
  | some regions =>
    let img := fill color topAdjustment sofar.1 regions
    (img, sofar.2 ++ [⟨label k, img⟩])

/-- The image with all ignored regions filled, and the snapshots on the way. -/
def apply (color : Pixel) (img : Image) (ignores : IgnoreMap) (topAdjustment : Int32) :
    Image × List Snapshot :=
  IgnoreKind.ordered.foldl (step color ignores topAdjustment) (img, [])

end Mask

end VisualRegression
