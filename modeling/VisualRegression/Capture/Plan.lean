import VisualRegression.Capture.Cut
import VisualRegression.Capture.Scaling
import VisualRegression.Capture.Stitcher

/-!
# Capture plans

What is done with the tiles of a capture: each is brought to logical pixels, then loses its header
and footer, and all are put together.
-/

namespace VisualRegression

/-- One step in the treatment of a tile. -/
inductive Stage where
  | scaling (s : Scaling)
  | cutting (c : Cut)

namespace Stage

/-- The name of the step. -/
def name : Stage → String
  | scaling _ => "scaling"
  | cutting _ => "cutting"

/-- The tile after the step. -/
def apply : Stage → Image → Except CaptureFault Image
  | scaling s, tile => s.apply tile
  | cutting c, tile => .ok (c.apply tile)

end Stage

/-- How the tiles of a capture become one image. -/
structure CapturePlan where
  scaling : Scaling
  cut : Cut
  stitcher : Stitcher

namespace CapturePlan

/-- The plan of a stitcher with a ratio and cuts, if the ratio is valid. -/
def compose (stitcher : Stitcher) (ratio : Float) (cut : Cut) :
    Except CaptureFault CapturePlan := do
  let scaling ← Scaling.ofRatio ratio
  return ⟨scaling, cut, stitcher⟩

/-- The steps that each tile goes through; without rows to cut off there is no cutting. -/
def stages (p : CapturePlan) : List Stage :=
  .scaling p.scaling ::
    if p.cut.header.toNat + p.cut.footer.toNat > 0 then [.cutting p.cut] else []

/-- The name of the strategy. -/
def name (p : CapturePlan) : String := p.stitcher.name

/-- The capture has to deliver tiles for the whole page. -/
def scrolls (p : CapturePlan) : Bool := p.stitcher.scrolls

/-- Physical pixels for each logical one. -/
def ratio (p : CapturePlan) : Float := p.scaling.ratio

/-- How many rows the assembled image starts below the top of the page. -/
def topAdjustment (p : CapturePlan) : Int32 := saturate p.cut.header.toNat

/-- A tile after all its steps. -/
def prepare (p : CapturePlan) (tile : Image) : Except CaptureFault Image :=
  p.stages.foldlM (fun tile stage => stage.apply tile) tile

/-- The image that captured tiles make up. -/
def assemble (p : CapturePlan) (tiles : List Image) : Except CaptureFault Image := do
  let tiles ← tiles.mapM p.prepare
  p.stitcher.stitch tiles

end CapturePlan

end VisualRegression
