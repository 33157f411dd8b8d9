import Lamplighter.Level

/-!
# Grids

A grid is the map as it is played on: rows of tiles from the top of the picture downwards. Making
one from a level turns the order of the rows around and checks that they form a rectangle. A grid
that was read from elsewhere may hold rows that disagree with its number of columns, so every access
looks at both.
-/

namespace Lamplighter

/-- What a tile is. -/
inductive TileKind where
  | ground
  | lamp (lit : Bool)
deriving DecidableEq, Repr

/-- A tile: its height in steps, and what it is. -/
structure Tile where
  height : UInt32
  kind : TileKind
deriving DecidableEq, Repr

namespace Tile

/-- Plain ground of a height. -/
def ground (height : UInt32) : Tile := ⟨height, .ground⟩

/-- An unlit lamp at a height. -/
def lamp (height : UInt32) : Tile := ⟨height, .lamp false⟩

/-- Whether a tile is a lamp. -/
def isLamp (tile : Tile) : Bool :=
  match tile.kind with
  | .ground => false
  | .lamp _ => true

/-- Whether a tile is a lamp that is lit. -/
def isLit (tile : Tile) : Bool :=
  match tile.kind with
  | .ground => false
  | .lamp lit => lit

/-- Light a lamp. Ground stays what it is. -/
def lightUp (tile : Tile) : Tile := if tile.isLamp then { tile with kind := .lamp true } else tile

/-- The tile of a level's cell. A lamp on the ground plane can be neither seen nor reached, so it
becomes ground. -/
def ofLevelCell (cell : LevelCell) : Tile :=
  match cell.mark with
  | .block => ground cell.height
  | .lamp => if 0 < cell.height then lamp cell.height else ground cell.height

/-- The cell of a level that describes a tile, whether lit or not. -/
def toLevelCell (tile : Tile) : LevelCell :=
  ⟨tile.height, if tile.isLamp then .lamp else .block⟩

end Tile

/-- Rows of tiles from the top of the picture downwards. -/
structure Grid where
  columns : Nat
  rows : List (List Tile)
deriving DecidableEq, Repr

namespace Grid

/-- The number of rows. -/
def rowCount (grid : Grid) : Nat := grid.rows.length

/-- The grid of some rows. The widest row says how wide all of them have to be. -/
def ofRows (rows : List (List Tile)) : Except LevelError Grid :=
  let columns := (rows.map List.length).foldr max 0
  if columns = 0 then
    .error .empty
  else
    match rows.findIdx? fun row => row.length ≠ columns with
    | some row => .error (.raggedRow row columns ((rows[row]?.map List.length).getD 0))
    | none => .ok ⟨columns, rows⟩

/-- The grid of the rows of a level. -/
def ofLevelRows (map : List (List LevelCell)) : Except LevelError Grid :=
  ofRows (map.reverse.map fun row => row.map Tile.ofLevelCell)

/-- The rows of a level that describes a grid. -/
def toLevelRows (grid : Grid) : List (List LevelCell) :=
  grid.rows.reverse.map fun row => row.map Tile.toLevelCell

/-- The column and the row of a cell on the grid. -/
def indices? (grid : Grid) (cell : Cell) : Option (Nat × Nat) :=
  match cell.indices? with
  | some (column, row) =>
      if column < grid.columns ∧ row < grid.rowCount then some (column, row) else none
  | none => none

/-- Whether a cell is on the grid. -/
def contains (grid : Grid) (cell : Cell) : Bool := (grid.indices? cell).isSome

/-- The tile of a cell. -/
def tile? (grid : Grid) (cell : Cell) : Option Tile :=
  match grid.indices? cell with
  | some (column, row) => grid.rows[row]?.bind (·[column]?)
  | none => none

/-- The grid in which the tile of a cell has changed. -/
def update (grid : Grid) (cell : Cell) (change : Tile → Tile) : Grid :=
  match grid.indices? cell with
  | some (column, row) =>
      { grid with rows := grid.rows.modify row fun tiles => tiles.modify column change }
  | none => grid

/-- The tiles of a grid, row by row. -/
def tiles (grid : Grid) : List Tile := grid.rows.flatten

/-- The cells of some rows, row by row, with what stands in each. -/
def cellsOf {α : Type} (rows : List (List α)) : List (Cell × α) :=
  rows.zipIdx.flatMap fun (tiles, row) =>
    tiles.zipIdx.map fun (tile, column) => (Cell.ofIndices column row, tile)

/-- The cells of a grid with their tiles, row by row. -/
def cells (grid : Grid) : List (Cell × Tile) := cellsOf grid.rows

/-- The number of lamps. -/
def lampCount (grid : Grid) : Nat := grid.tiles.countP Tile.isLamp

/-- The number of lamps that are lit. -/
def litCount (grid : Grid) : Nat := grid.tiles.countP Tile.isLit

/-- Whether every lamp is lit. -/
def allLit (grid : Grid) : Bool := grid.tiles.all fun tile => !tile.isLamp || tile.isLit

end Grid

end Lamplighter
