import VisualRegression.Png.Scanline
import VisualRegression.Png.Sample

/-!
# Passes

The rows of an image come at once, or in seven passes that each hold the pixels of a grid. Each
position is on exactly one grid: `pass_unique` is the law for the seven.
-/

namespace VisualRegression.Png

/-- The positions of a pass: the first column and row, and the steps to the next ones. -/
structure Grid where
  column : Nat
  row : Nat
  columnStep : Nat
  rowStep : Nat
deriving DecidableEq

namespace Grid

/-- The grid of all positions. -/
def whole : Grid := ⟨0, 0, 1, 1⟩

/-- The grids of the seven passes. -/
def passes : List Grid :=
  [⟨0, 0, 8, 8⟩, ⟨4, 0, 8, 8⟩, ⟨0, 4, 4, 8⟩, ⟨2, 0, 4, 4⟩, ⟨0, 2, 2, 4⟩, ⟨1, 0, 2, 2⟩, ⟨0, 1, 1, 2⟩]

/-- The position is on the grid. -/
def contains (g : Grid) (x y : Nat) : Bool :=
  x % g.columnStep == g.column && y % g.rowStep == g.row

/-- The number of columns of the grid in an image of a width. -/
def columns (g : Grid) (width : Nat) : Nat := (width - g.column + g.columnStep - 1) / g.columnStep

/-- The number of rows of the grid in an image of a height. -/
def rows (g : Grid) (height : Nat) : Nat := (height - g.row + g.rowStep - 1) / g.rowStep

end Grid

/-- Each position is on exactly one of the seven grids. -/
theorem pass_unique (x y : Nat) : (Grid.passes.filter (·.contains x y)).length = 1 := by
  have hx : ∀ x : Fin 8, ∀ y : Fin 8,
      (Grid.passes.filter (·.contains x.val y.val)).length = 1 := by decide
  have h := hx ⟨x % 8, Nat.mod_lt _ (by omega)⟩ ⟨y % 8, Nat.mod_lt _ (by omega)⟩
  have hc : ∀ g ∈ Grid.passes, g.contains (x % 8) (y % 8) = g.contains x y := by
    simp only [Grid.passes, List.mem_cons, List.not_mem_nil, or_false, Grid.contains]
    rintro g (rfl | rfl | rfl | rfl | rfl | rfl | rfl) <;>
      simp [Nat.mod_mod_of_dvd]
  rw [← h]
  exact congrArg List.length (List.filter_congr fun g hg => (hc g hg).symm)

/-- A grid and the rows of bytes that were stored for it. -/
structure Pass where
  grid : Grid
  rows : Array (Array UInt8)

/-- Reads the rows of grids. A grid without positions has no rows. -/
def readPasses? (h : Header) : List Grid → List UInt8 → Option (List Pass)
  | [], _ => some []
  | grid :: rest, bytes => do
    let columns := grid.columns h.width.toNat
    let count := if columns = 0 then 0 else grid.rows h.height.toNat
    let (rows, bytes) ← readRows? h.pixelLength (h.rowLength columns) count #[] bytes
    let passes ← readPasses? h rest bytes
    return ⟨grid, rows.toArray⟩ :: passes

/-- The pixel at a position of an image that came in passes. -/
def Coloring.pixelOf (c : Coloring) (passes : List Pass) (x y : Nat) : Pixel :=
  match passes.find? (·.grid.contains x y) with
  | some pass =>
    c.pixelAt (pass.rows.getD (y / pass.grid.rowStep) #[]) (x / pass.grid.columnStep)
  | none => .transparent

end VisualRegression.Png
