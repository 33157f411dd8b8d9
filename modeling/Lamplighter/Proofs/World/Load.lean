import Lamplighter.Proofs.Grid.Light
import Lamplighter.World

/-!
# Loaded worlds

A level that loads makes a rectangle with a lamp in it and no lamp lit, and puts the robot on it.
`World.Fresh` collects what is known of a world that has just been loaded; resetting a world later
leads back to such a one.
-/

namespace Lamplighter

/-- A grid that is made of rows consists of them, and they are as long as the grid is wide. -/
theorem Grid.of_ofRows_eq_ok {rows : List (List Tile)} {grid : Grid}
    (made : Grid.ofRows rows = .ok grid) : grid.rows = rows ∧ grid.Rectangular := by
  simp only [Grid.ofRows] at made
  split at made
  next => simp at made
  next some =>
    split at made
    next => simp at made
    next even =>
      obtain rfl := Except.ok.inj made
      refine ⟨rfl, ?_⟩
      simpa [Grid.Rectangular, List.findIdx?_eq_none_iff] using even

/-- Each tile of the grid of a level is that of a cell of the level. -/
theorem Grid.exists_of_mem_tiles {map : List (List LevelCell)} {grid : Grid}
    (made : Grid.ofLevelRows map = .ok grid) {tile : Tile} (member : tile ∈ grid.tiles) :
    ∃ row ∈ map, ∃ cell ∈ row, Tile.ofLevelCell cell = tile := by
  rw [Grid.tiles, (Grid.of_ofRows_eq_ok made).1] at member
  obtain ⟨row, isRow, inRow⟩ := List.mem_flatten.1 member
  obtain ⟨cells, isCells, rfl⟩ := List.mem_map.1 isRow
  obtain ⟨cell, isCell, same⟩ := List.mem_map.1 inRow
  exact ⟨cells, List.mem_reverse.1 isCells, cell, isCell, same⟩

/-- The grid of a level shows no lit lamp. -/
theorem Grid.litCount_of_ofLevelRows {map : List (List LevelCell)} {grid : Grid}
    (made : Grid.ofLevelRows map = .ok grid) : grid.litCount = 0 := by
  rw [Grid.litCount, List.countP_eq_zero]
  intro tile member
  obtain ⟨_, _, cell, _, rfl⟩ := Grid.exists_of_mem_tiles made member
  simp [Tile.isLit_ofLevelCell]

/-! ## Cells of the map -/

namespace Grid

/-- A cell with a tile is on the map. -/
theorem contains_of_tile? {grid : Grid} {cell : Cell} {tile : Tile}
    (isTile : grid.tile? cell = some tile) : grid.contains cell = true := by
  cases found : grid.indices? cell with
  | none => simp [tile?, found] at isTile
  | some indices => simp [contains, found]

/-- A cell that is not on the map has no tile. -/
theorem tile?_of_not_contains {grid : Grid} {cell : Cell} (outside : grid.contains cell = false) :
    grid.tile? cell = none := by
  cases isTile : grid.tile? cell with
  | none => rfl
  | some tile => simp [contains_of_tile? isTile] at outside

/-- The tile of a cell is one of the tiles of the map. -/
theorem mem_tiles_of_tile? {grid : Grid} {cell : Cell} {tile : Tile}
    (isTile : grid.tile? cell = some tile) : tile ∈ grid.tiles := by
  simp only [tile?] at isTile
  split at isTile
  next column row _ =>
    obtain ⟨tiles, isRow, inRow⟩ := Option.bind_eq_some_iff.1 isTile
    exact List.mem_flatten_of_mem (List.mem_of_getElem? isRow) (List.mem_of_getElem? inRow)
  next => simp at isTile

/-- The column and the row of a cell of the map. -/
theorem of_contains {grid : Grid} {cell : Cell} (inside : grid.contains cell = true) :
    (0 ≤ cell.x.toInt ∧ cell.x.toInt < grid.columns) ∧
      (0 ≤ cell.y.toInt ∧ cell.y.toInt < grid.rowCount) ∧
      grid.indices? cell = some (cell.x.toInt.toNat, cell.y.toInt.toNat) := by
  simp only [contains, indices?, Cell.indices?, Int32.le_iff_toInt_le, Int32.toInt_zero] at inside ⊢
  split at inside
  next column row found =>
    split at found
    next positive =>
      split at inside
      next small =>
        obtain ⟨rfl, rfl⟩ := Prod.mk.inj (Option.some.inj found)
        refine ⟨⟨positive.1, by omega⟩, ⟨positive.2, by omega⟩, ?_⟩
        exact if_pos small
      next => simp at inside
    next => simp at found
  next => simp at inside

/-- On a rectangle, each cell of the map has a tile. -/
theorem Rectangular.tile?_of_contains {grid : Grid} (rectangular : grid.Rectangular)
    {cell : Cell} (inside : grid.contains cell = true) :
    ∃ tile, grid.tile? cell = some tile := by
  obtain ⟨⟨left, right⟩, ⟨bottom, top⟩, found⟩ := of_contains inside
  have inRows : cell.y.toInt.toNat < grid.rows.length := by
    unfold rowCount at top
    omega
  have inRow : cell.x.toInt.toNat < grid.rows[cell.y.toInt.toNat].length := by
    rw [rectangular _ (List.getElem_mem inRows)]
    omega
  refine ⟨grid.rows[cell.y.toInt.toNat][cell.x.toInt.toNat], ?_⟩
  simp only [tile?, found, List.getElem?_eq_getElem inRows, Option.bind_some,
    List.getElem?_eq_getElem inRow]

end Grid

/-! ## Worlds -/

namespace World

/-- A world in which nothing has happened yet. -/
structure Fresh (world : World) : Prop where
  initial : world.initial = world.grid
  pose : world.pose = world.spawn
  rectangular : world.grid.Rectangular
  dark : world.grid.litCount = 0
  lamps : world.grid.lampCount ≠ 0
  inside : world.grid.contains world.spawn.position = true

/-- What is known of a level that loads, and what it makes. -/
theorem of_load_eq_ok {level : Level} {world : World} (loaded : load level = .ok world) :
    ∃ grid heading,
      Grid.ofLevelRows level.map = .ok grid ∧
      Heading.ofIndex? level.direction = some heading ∧
      grid.contains level.position = true ∧ grid.lampCount ≠ 0 ∧
      world = ⟨grid, grid, ⟨level.position, heading⟩, ⟨level.position, heading⟩⟩ := by
  cases made : Grid.ofLevelRows level.map with
  | error failure => simp [load, made, bind, Except.bind] at loaded
  | ok grid =>
      simp only [load, made, bind, Except.bind] at loaded
      split at loaded
      next => simp at loaded
      next heading known =>
        split at loaded
        next => simp at loaded
        next inside =>
          split at loaded
          next => simp at loaded
          next lamps =>
            obtain rfl := Except.ok.inj loaded
            exact ⟨grid, heading, rfl, known, by simpa using inside, lamps, rfl⟩

/-- A loaded world is fresh. -/
theorem fresh_of_load {level : Level} {world : World} (loaded : load level = .ok world) :
    world.Fresh := by
  obtain ⟨grid, heading, made, _, inside, lamps, rfl⟩ := of_load_eq_ok loaded
  exact ⟨rfl, rfl, (Grid.of_ofRows_eq_ok made).2, Grid.litCount_of_ofLevelRows made, lamps, inside⟩

/-- In a fresh world there is something left to light. -/
theorem Fresh.unsolved {world : World} (fresh : world.Fresh) : world.isSolved = false :=
  Grid.allLit_eq_false fresh.lamps fresh.dark

end World

end Lamplighter
