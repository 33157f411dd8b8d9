import Lamplighter.Editor
import Lamplighter.Proofs.Grid.Cells

/-!
# Putting tiles on a map

A level is brought into the editor tile by tile, over the signed coordinates of cells. On a
rectangle with at most `2 ^ 31` columns and rows every place has a cell of its own, so that nothing
of the flat ground below is left: `Editor.put_cells`. Beyond that, coordinates turn negative and the
copying leaves the map, where it cannot go on. `Level.Addressable` says of a level that this does not
happen; it is why a level that has been taken over has no more columns and rows:
`Grid.Rectangular.sides_le`.
-/

namespace Lamplighter

/-- Changing the item behind some others leaves those, and what comes after it. -/
theorem modify_length_append {α : Type} (before : List α) (item : α) (behind : List α)
    (change : α → α) :
    (before ++ item :: behind).modify before.length change = before ++ change item :: behind := by
  induction before with
  | nil => rfl
  | cons first rest inductionHypothesis => simpa using inductionHypothesis

/-! ## Levels that can be copied -/

/-- A level whose tiles can be put on the map one by one: no cell of the grid that it makes, if it
makes one, is taken for a cell outside. -/
def Level.Addressable (level : Level) : Prop :=
  ∀ grid, Grid.ofLevelRows level.map = .ok grid →
    ∀ placed ∈ grid.cells, grid.contains placed.1 = true

namespace Grid

/-- Every cell of a small rectangle is on it. -/
theorem Rectangular.contains_of_mem_cells {grid : Grid} (rectangular : grid.Rectangular)
    (small : grid.Small) : ∀ placed ∈ grid.cells, grid.contains placed.1 = true :=
  fun _ member => (rectangular.mem_cells_iff small _).1 (List.mem_map_of_mem member)

/-- The cell of a place is on the map only if its coordinates are not taken for negative ones. -/
theorem not_contains_ofIndices (grid : Grid) {column row : Nat}
    (beyond : column = 2147483648 ∨ row = 2147483648) :
    grid.contains (.ofIndices column row) = false := by
  cases outside : grid.contains (.ofIndices column row) with
  | false => rfl
  | true =>
      obtain ⟨⟨left, _⟩, ⟨bottom, _⟩, _⟩ := of_contains outside
      rcases beyond with rfl | rfl
      · simp [Cell.ofIndices] at left
      · simp [Cell.ofIndices] at bottom

/-- A rectangle that is not empty has at most `2 ^ 31` columns and rows if all its cells are on
it. -/
theorem Rectangular.sides_le {grid : Grid} (rectangular : grid.Rectangular)
    (wide : grid.columns ≠ 0) (tall : grid.rowCount ≠ 0)
    (inside : ∀ placed ∈ grid.cells, grid.contains placed.1 = true) :
    grid.columns ≤ 2147483648 ∧ grid.rowCount ≤ 2147483648 := by
  have placed (column row : Nat) (inRow : column < grid.columns) (inRows : row < grid.rowCount) :
      grid.contains (.ofIndices column row) = true := by
    have listed : Cell.ofIndices column row ∈ grid.cells.map (·.1) := by
      rw [rectangular.map_cells]
      exact List.mem_map.2 ⟨(row, column),
        List.mem_product.2 ⟨List.mem_range.2 inRows, List.mem_range.2 inRow⟩, rfl⟩
    obtain ⟨item, isItem, same⟩ := List.mem_map.1 listed
    rw [← same]
    exact inside item isItem
  constructor
  · by_contra beyond
    have far := placed 2147483648 0 (Nat.lt_of_not_le beyond) (Nat.pos_of_ne_zero tall)
    rw [grid.not_contains_ofIndices (.inl rfl)] at far
    exact absurd far Bool.false_ne_true
  · by_contra beyond
    have far := placed 0 2147483648 (Nat.pos_of_ne_zero wide) (Nat.lt_of_not_le beyond)
    rw [grid.not_contains_ofIndices (.inr rfl)] at far
    exact absurd far Bool.false_ne_true

end Grid

/-- A small level is copied whole. -/
theorem Level.Small.addressable {level : Level} (small : level.Small) : level.Addressable := by
  intro grid made placed member
  have tall : grid.rowCount ≠ 0 := by
    intro flat
    have none : grid.rows = [] := List.length_eq_zero_iff.1 flat
    rw [Grid.cells, none] at member
    exact absurd member List.not_mem_nil
  exact (Grid.of_ofRows_eq_ok made).2.contains_of_mem_cells
    (Grid.small_of_ofLevelRows small made tall) placed member

/-! ## Copying -/

namespace Editor

/-- Changing the tile of a cell that is made of a small column and row. -/
theorem update_ofIndices (editor : Editor) {column row : Nat} (smallColumn : column < 2147483648)
    (smallRow : row < 2147483648) (change : Tile → Tile) :
    editor.update (.ofIndices column row) change =
      { editor with tiles := editor.tiles.modify row fun tiles => tiles.modify column change } := by
  simp only [update, Cell.indices?_ofIndices smallColumn smallRow]

/-- Putting tiles begins with the first of them. -/
theorem put_cons (editor : Editor) (cell : Cell) (tile : Tile) (further : List (Cell × Tile)) :
    editor.put ((cell, tile) :: further) = (editor.update cell fun _ => tile).put further :=
  rfl

/-- Putting tiles goes on behind the first ones. -/
theorem put_append (editor : Editor) (first further : List (Cell × Tile)) :
    editor.put (first ++ further) = (editor.put first).put further :=
  List.foldl_append

/-- Putting the tiles of a row, from some column on, replaces what is left of it. -/
theorem put_row {editor : Editor} {above below : List (List Tile)} {done left row : List Tile}
    (stands : editor.tiles = above ++ (done ++ left) :: below)
    (sameLength : left.length = row.length)
    (smallColumns : done.length + row.length ≤ 2147483648)
    (smallRow : above.length < 2147483648) :
    editor.put ((row.zipIdx done.length).map fun (tile, column) =>
        (Cell.ofIndices column above.length, tile)) =
      { editor with tiles := above ++ (done ++ row) :: below } := by
  induction row generalizing editor done left with
  | nil =>
      obtain rfl := List.length_eq_zero_iff.1 sameLength
      rw [← stands]
      rfl
  | cons tile rest inductionHypothesis =>
      obtain ⟨blank, left, rfl⟩ := List.exists_cons_of_length_eq_add_one sameLength
      rw [List.length_cons] at smallColumns
      have written : editor.update (.ofIndices done.length above.length) (fun _ => tile) =
          { editor with tiles := above ++ (done ++ [tile] ++ left) :: below } := by
        rw [update_ofIndices _ (by omega) smallRow, stands, modify_length_append,
          modify_length_append, List.append_assoc]
        rfl
      have further := @inductionHypothesis
        { editor with tiles := above ++ (done ++ [tile] ++ left) :: below } (done ++ [tile]) left
        rfl (by simpa using sameLength) (by simp; omega)
      rw [List.length_append, List.length_singleton, List.append_assoc done [tile] rest,
        List.singleton_append] at further
      rw [List.zipIdx_cons, List.map_cons, put_cons, written]
      exact further

/-- Putting the tiles of some rows, from some row on, replaces the rows that are left. -/
theorem put_rows {editor : Editor} {columns : Nat} {done left rows : List (List Tile)}
    (stands : editor.tiles = done ++ left) (sameLength : left.length = rows.length)
    (blank : ∀ row ∈ left, row.length = columns) (even : ∀ row ∈ rows, row.length = columns)
    (smallColumns : columns ≤ 2147483648) (smallRows : done.length + rows.length ≤ 2147483648) :
    editor.put ((rows.zipIdx done.length).flatMap fun (tiles, row) =>
        tiles.zipIdx.map fun (tile, column) => (Cell.ofIndices column row, tile)) =
      { editor with tiles := done ++ rows } := by
  induction rows generalizing editor done left with
  | nil =>
      obtain rfl := List.length_eq_zero_iff.1 sameLength
      rw [← stands]
      rfl
  | cons row rest inductionHypothesis =>
      obtain ⟨first, left, rfl⟩ := List.exists_cons_of_length_eq_add_one sameLength
      rw [List.forall_mem_cons] at blank even
      rw [List.length_cons] at smallRows
      have written : editor.put (row.zipIdx.map fun (tile, column) =>
          (Cell.ofIndices column done.length, tile)) =
            { editor with tiles := done ++ [row] ++ left } := by
        have whole := @put_row editor done left [] first row stands (blank.1.trans even.1.symm)
          (by simpa [even.1] using smallColumns) (by omega)
        rw [List.append_assoc, List.singleton_append]
        exact whole
      have further := @inductionHypothesis { editor with tiles := done ++ [row] ++ left }
        (done ++ [row]) left rfl (by simpa using sameLength) blank.2 even.2 (by simp; omega)
      rw [List.length_append, List.length_singleton, List.append_assoc done [row] rest,
        List.singleton_append] at further
      rw [List.zipIdx_cons, List.flatMap_cons, put_append, written]
      exact further

/-- Putting the tiles of a rectangle each of whose places has a cell on flat ground of its size
leaves nothing of the ground. -/
theorem put_cells (editor : Editor) {grid : Grid} (rectangular : grid.Rectangular)
    (columns : grid.columns ≤ 2147483648) (rows : grid.rowCount ≤ 2147483648) :
    (editor.flattened grid.columns grid.rowCount).put grid.cells =
      { editor.flattened grid.columns grid.rowCount with tiles := grid.rows } := by
  have ground : ∀ row ∈ (editor.flattened grid.columns grid.rowCount).tiles,
      row.length = grid.columns := by
    intro row isRow
    rw [List.eq_of_mem_replicate isRow, List.length_replicate]
  have sameLength : (editor.flattened grid.columns grid.rowCount).tiles.length =
      grid.rows.length := List.length_replicate
  have sides : grid.rows.length ≤ 2147483648 := rows
  exact @put_rows _ grid.columns [] _ grid.rows rfl sameLength ground rectangular columns
    (by simpa using sides)

end Editor

end Lamplighter
