import Lamplighter.Proofs.World.Load
import Mathlib.Data.List.Nodup
import Mathlib.Data.List.ProdSigma

/-!
# The cells of a grid

Cells have signed coordinates of 32 bits. On a rectangle with fewer than `2 ^ 31` columns and rows
they name the places of the grid one to one: `Grid.Rectangular.map_cells` lists them row by row,
each of them once, and `Grid.Rectangular.mem_cells_iff` says that they are the cells of the map.
-/

namespace Lamplighter

namespace Cell

/-- The column and the row of a cell that is made of small ones. -/
theorem indices?_ofIndices {column row : Nat} (smallColumn : column < 2147483648)
    (smallRow : row < 2147483648) : (ofIndices column row).indices? = some (column, row) := by
  have x : (ofIndices column row).x.toInt = column := Int32.toInt_ofNat_of_lt smallColumn
  have y : (ofIndices column row).y.toInt = row := Int32.toInt_ofNat_of_lt smallRow
  simp [indices?, Int32.le_iff_toInt_le, x, y]

/-- A cell behind neither edge is made of its column and its row. -/
theorem ofIndices_toNat {cell : Cell} (left : 0 ≤ cell.x.toInt) (bottom : 0 ≤ cell.y.toInt) :
    ofIndices cell.x.toInt.toNat cell.y.toInt.toNat = cell := by
  have x : Int32.ofNat cell.x.toInt.toNat = cell.x := by
    rw [← Int32.ofInt_eq_ofNat, Int.toNat_of_nonneg left, Int32.ofInt_toInt]
  have y : Int32.ofNat cell.y.toInt.toNat = cell.y := by
    rw [← Int32.ofInt_eq_ofNat, Int.toNat_of_nonneg bottom, Int32.ofInt_toInt]
  rw [ofIndices, x, y]

/-- A cell that has a column and a row is made of them. -/
theorem ofIndices_of_indices? {cell : Cell} {column row : Nat}
    (found : cell.indices? = some (column, row)) : ofIndices column row = cell := by
  simp only [indices?, Int32.le_iff_toInt_le, Int32.toInt_zero] at found
  split at found
  next inside =>
    obtain ⟨rfl, rfl⟩ := Prod.mk.inj (Option.some.inj found)
    exact ofIndices_toNat inside.1 inside.2
  next => simp at found

end Cell

/-! ## Sides -/

/-- A grid each of whose places has a cell: it has fewer than `2 ^ 31` columns and rows. -/
structure Grid.Small (grid : Grid) : Prop where
  columns : grid.columns < 2147483648
  rows : grid.rowCount < 2147483648

/-- A level with fewer than `2 ^ 31` columns and rows. -/
structure Level.Small (level : Level) : Prop where
  columns : ∀ row ∈ level.map, row.length < 2147483648
  rows : level.map.length < 2147483648

namespace Grid

/-- A grid with a cell on it has a column and a row. -/
theorem ne_zero_of_contains {grid : Grid} {cell : Cell} (inside : grid.contains cell = true) :
    grid.columns ≠ 0 ∧ grid.rowCount ≠ 0 := by
  obtain ⟨column, row, _⟩ := of_contains inside
  omega

/-- The grid of a small level is small, unless it has no row at all. -/
theorem small_of_ofLevelRows {level : Level} {grid : Grid} (small : level.Small)
    (made : ofLevelRows level.map = .ok grid) (tall : grid.rowCount ≠ 0) : grid.Small := by
  obtain ⟨rows, rectangular⟩ := of_ofRows_eq_ok made
  refine ⟨?_, ?_⟩
  · obtain ⟨row, isRow⟩ := List.exists_mem_of_length_pos (Nat.pos_of_ne_zero tall)
    rw [← rectangular row isRow]
    rw [rows] at isRow
    obtain ⟨cells, isCells, rfl⟩ := List.mem_map.1 isRow
    rw [List.length_map]
    exact small.columns cells (List.mem_reverse.1 isCells)
  · rw [rowCount, rows, List.length_map, List.length_reverse]
    exact small.rows

/-- Lighting lamps does not make a grid larger. -/
theorem LitFurther.small {before after : Grid} (further : before.LitFurther after)
    (small : before.Small) : after.Small :=
  ⟨further.columns ▸ small.columns, further.rowCount ▸ small.rows⟩

/-- On a rectangle, nothing stands where a cell is beyond the number of columns or rows. -/
theorem Rectangular.tile?_eq {grid : Grid} (rectangular : grid.Rectangular) (cell : Cell) :
    grid.tile? cell =
      match cell.indices? with
      | some (column, row) => grid.rows[row]?.bind (·[column]?)
      | none => none := by
  unfold tile? indices?
  cases cell.indices? with
  | none => rfl
  | some place =>
      obtain ⟨column, row⟩ := place
      by_cases inside : column < grid.columns ∧ row < grid.rowCount
      · simp only [inside, and_self, if_true]
      · simp only [inside, if_false]
        cases isRow : grid.rows[row]? with
        | none => rfl
        | some tiles =>
            have inRows : row < grid.rowCount := (List.getElem?_eq_some_iff.1 isRow).1
            have width : tiles.length = grid.columns := rectangular _ (List.mem_of_getElem? isRow)
            rw [Option.bind_some, List.getElem?_eq_none]
            omega

/-- The cell of a place of a small grid is on the map. -/
theorem Small.contains_ofIndices {grid : Grid} (small : grid.Small) {column row : Nat}
    (inRow : column < grid.columns) (inRows : row < grid.rowCount) :
    grid.contains (.ofIndices column row) = true := by
  have found := Cell.indices?_ofIndices (Nat.lt_trans inRow small.columns)
    (Nat.lt_trans inRows small.rows)
  simp [contains, indices?, found, inRow, inRows]

/-! ## Cells -/

section Rectangular

variable {grid : Grid} (rectangular : grid.Rectangular)
include rectangular

/-- The cells of a rectangle, row by row. -/
theorem Rectangular.map_cells :
    grid.cells.map (·.1) =
      (List.range grid.rowCount ×ˢ List.range grid.columns).map fun place =>
        Cell.ofIndices place.2 place.1 := by
  -- Of the numbered rows only the numbers matter, since all are equally long.
  have row : ∀ placed ∈ grid.rows.zipIdx,
      (placed.1.zipIdx.map fun (tile, column) => (Cell.ofIndices column placed.2, tile)).map (·.1) =
        (List.range grid.columns).map fun column => Cell.ofIndices column placed.2 := by
    rintro ⟨tiles, index⟩ placed
    have isRow : tiles ∈ grid.rows := (List.mem_zipIdx' placed).2 ▸ List.getElem_mem _
    rw [← rectangular tiles isRow, List.range_eq_range', ← List.zipIdx_map_snd 0 tiles,
      List.map_map, List.map_map]
    rfl
  have rows : List.range grid.rowCount = grid.rows.zipIdx.map (·.2) := by
    rw [List.range_eq_range', rowCount, ← List.zipIdx_map_snd 0 grid.rows]
  rw [rows, cells, cellsOf, List.map_flatMap, List.flatMap_congr row]
  simp only [SProd.sprod, List.product, List.map_flatMap, List.flatMap_map, List.map_map]
  rfl

/-- There are as many cells as places. -/
theorem Rectangular.length_cells :
    (grid.cells.map (·.1)).length = grid.columns * grid.rowCount := by
  rw [rectangular.map_cells, List.length_map, List.length_product, List.length_range,
    List.length_range, Nat.mul_comm]

variable (small : grid.Small)
include small

/-- No cell is listed twice. -/
theorem Rectangular.nodup_cells : (grid.cells.map (·.1)).Nodup := by
  rw [rectangular.map_cells]
  refine List.Nodup.map_on ?_ (List.nodup_range.product List.nodup_range)
  rintro ⟨row, column⟩ place ⟨row', column'⟩ place' same
  simp only [List.mem_product, List.mem_range] at place place'
  have found := Cell.indices?_ofIndices (Nat.lt_trans place.2 small.columns)
    (Nat.lt_trans place.1 small.rows)
  have found' := Cell.indices?_ofIndices (Nat.lt_trans place'.2 small.columns)
    (Nat.lt_trans place'.1 small.rows)
  rw [same, found'] at found
  simpa [and_comm, eq_comm] using found

/-- The cells of a grid are those of the map. -/
theorem Rectangular.mem_cells_iff (cell : Cell) :
    cell ∈ grid.cells.map (·.1) ↔ grid.contains cell = true := by
  rw [rectangular.map_cells, List.mem_map]
  constructor
  · rintro ⟨⟨row, column⟩, place, rfl⟩
    simp only [List.mem_product, List.mem_range] at place
    exact small.contains_ofIndices place.2 place.1
  · intro inside
    obtain ⟨⟨left, right⟩, ⟨bottom, top⟩, _⟩ := of_contains inside
    refine ⟨(cell.y.toInt.toNat, cell.x.toInt.toNat), ?_, Cell.ofIndices_toNat left bottom⟩
    simp only [List.mem_product, List.mem_range]
    omega

end Rectangular

end Grid

/-- The grid of a small level that loads is small. -/
theorem World.small_of_load {level : Level} {world : World} (loaded : load level = .ok world)
    (small : level.Small) : world.grid.Small := by
  obtain ⟨grid, heading, made, _, inside, _, rfl⟩ := of_load_eq_ok loaded
  exact Grid.small_of_ofLevelRows small made (Grid.ne_zero_of_contains inside).2

end Lamplighter
