import VisualRegression.Image.Basic

/-!
# Cutting off headers and footers

Rows that repeat in every tile, such as a header that stays in place, are cut off. Main statement:
`top_add_kept_le` says that the rows kept are rows of the tile.
-/

namespace VisualRegression

/-- How many rows to cut off at the two ends. -/
structure Cut where
  header : UInt32
  footer : UInt32
deriving DecidableEq, Inhabited, Repr

namespace Cut

/-- The rows cut off at the top of a tile. -/
def top (c : Cut) (height : Nat) : Nat := min c.header.toNat height

/-- The rows left of a tile; the header is cut off first. -/
def kept (c : Cut) (height : Nat) : Nat :=
  height - c.top height - min c.footer.toNat (height - c.top height)

theorem top_add_kept_le (c : Cut) (height : Nat) : c.top height + c.kept height ≤ height := by
  simp only [kept, top]; omega

/-- The tile without the rows cut off; a tile that loses no row stays as it is. -/
def apply (c : Cut) (tile : Image) : Image :=
  let height := tile.height.toNat
  if c.kept height = height then tile
  else tile.rows (c.top height) (c.kept height) (c.top_add_kept_le height)

end Cut

end VisualRegression
