import VisualRegression.Policy

/-!
# Putting tiles together

A stitcher makes one image of the tiles of a capture. Two are built in: one takes the first tile,
the other puts all tiles that have pixels below each other. Main statement: `width_eq_of_find?`
gives the common width that the second one needs.
-/

namespace VisualRegression

/-- A named way to make one image of captured tiles. -/
structure Stitcher where
  /-- The name under which the strategy is found. -/
  name : String
  /-- The capture has to deliver tiles for the whole page. -/
  scrolls : Bool
  /-- The image that the tiles make up. -/
  stitch : List Image → Except CaptureFault Image

namespace Stitcher

/-- The first tile. -/
def firstTile : List Image → Except CaptureFault Image
  | [] => .error (.stitch .noTiles)
  | tile :: _ => .ok tile

theorem width_eq_of_find? {width : UInt32} {parts : List Image}
    (h : parts.find? (fun p => p.width != width) = none) : ∀ p ∈ parts, p.width = width := by
  intro p hp
  simpa using List.find?_eq_none.1 h p hp

/-- Tiles with pixels below each other. -/
def stackTiles (parts : List Image) : Except CaptureFault Image :=
  let width := (parts.head?.map Image.width).getD 0
  match hw : parts.find? (fun p => p.width != width) with
  | some odd => .error (.stitch (.widthDiffers odd.width width))
  | none =>
    let height := Image.totalHeight parts
    if hh : height < UInt32.size then .ok (Image.stack width parts (width_eq_of_find? hw) hh)
    else .error (.stitch (.tooHigh height))

/-- All tiles that have pixels, below each other; a single tile stays as it is. -/
def allTiles : List Image → Except CaptureFault Image
  | [] => .error (.stitch .noTiles)
  | [tile] => .ok tile
  | tiles => stackTiles (tiles.filter fun t => !t.isEmpty)

/-- Takes what is visible: the first tile. -/
def viewport : Stitcher := ⟨viewportName, false, firstTile⟩

/-- Takes the whole page: all tiles below each other. -/
def fullPage : Stitcher := ⟨fullPageName, true, allTiles⟩

end Stitcher

end VisualRegression
