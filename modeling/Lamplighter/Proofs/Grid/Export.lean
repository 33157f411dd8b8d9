import Lamplighter.Proofs.Grid.Cells

/-!
# From a grid to a level and back

A level does not say of a lamp that it is lit, and its lamps on the ground plane become ground.
`Grid.ofLevelRows_toLevelRows`: all other rectangles are read back from the rows of a level that
describes them.
-/

namespace Lamplighter

/-! ## Tiles -/

/-- A height is at least a step unless it is that of the ground plane. -/
theorem one_le_iff_pos {height : UInt32} : 1 ≤ height ↔ 0 < height := by
  rw [UInt32.le_iff_toNat_le, UInt32.lt_iff_toNat_lt]
  exact Iff.rfl

namespace Tile

/-- A tile as a level can ask for it: a lamp is not lit, and it is raised from the ground plane. -/
def Authored (tile : Tile) : Prop := tile.isLamp = true → tile.isLit = false ∧ 1 ≤ tile.height

/-- Ground can be asked for at any height. -/
theorem authored_ground (height : UInt32) : (ground height).Authored :=
  fun isLamp => absurd isLamp Bool.false_ne_true

/-- A lamp can be asked for where it is raised. -/
theorem authored_lamp {height : UInt32} (raised : 1 ≤ height) : (lamp height).Authored :=
  fun _ => ⟨rfl, raised⟩

/-- A cell of a level asks for its tile. -/
theorem authored_ofLevelCell (cell : LevelCell) : (ofLevelCell cell).Authored := by
  obtain ⟨height, mark⟩ := cell
  cases mark with
  | block => exact authored_ground height
  | lamp =>
      simp only [ofLevelCell]
      split
      next raised => exact authored_lamp (one_le_iff_pos.2 raised)
      next => exact authored_ground height

/-- A tile that a level can ask for is the tile of the cell that describes it. -/
theorem Authored.ofLevelCell_toLevelCell {tile : Tile} (authored : tile.Authored) :
    ofLevelCell tile.toLevelCell = tile := by
  obtain ⟨height, kind⟩ := tile
  cases kind with
  | ground => rfl
  | lamp lit =>
      obtain ⟨unlit, raised⟩ := authored rfl
      obtain rfl : lit = false := unlit
      simp [toLevelCell, ofLevelCell, isLamp, one_le_iff_pos.1 raised, lamp]

end Tile

/-! ## Grids -/

namespace Grid

/-- The widest row of a rectangle is as wide as the others. -/
theorem Rectangular.widest {grid : Grid} (rectangular : grid.Rectangular)
    (tall : grid.rowCount ≠ 0) : (grid.rows.map List.length).foldr max 0 = grid.columns := by
  obtain ⟨columns, rows⟩ := grid
  induction rows with
  | nil => exact absurd rfl tall
  | cons first rest inductionHypothesis =>
      obtain ⟨width, others⟩ := List.forall_mem_cons.1 rectangular
      rw [List.map_cons, List.foldr_cons, width]
      cases rest with
      | nil => exact Nat.max_eq_left (Nat.zero_le _)
      | cons second further =>
          rw [inductionHypothesis others (Nat.succ_ne_zero _)]
          exact Nat.max_self _

/-- The rows of a rectangle make it, unless it is empty. -/
theorem Rectangular.ofRows_rows {grid : Grid} (rectangular : grid.Rectangular)
    (wide : grid.columns ≠ 0) (tall : grid.rowCount ≠ 0) : ofRows grid.rows = .ok grid := by
  have even : grid.rows.findIdx? (fun row => row.length ≠ grid.columns) = none := by
    simpa [List.findIdx?_eq_none_iff] using fun row isRow => rectangular row isRow
  simp only [ofRows, rectangular.widest tall, even, wide, if_false]

/-- A rectangle is made by the rows of a level that describes it, if a level can ask for its
tiles. -/
theorem ofLevelRows_toLevelRows {grid : Grid} (rectangular : grid.Rectangular)
    (wide : grid.columns ≠ 0) (tall : grid.rowCount ≠ 0)
    (authored : ∀ tile ∈ grid.tiles, tile.Authored) : ofLevelRows grid.toLevelRows = .ok grid := by
  have again : ∀ row ∈ grid.rows,
      ((fun row => row.map Tile.ofLevelCell) ∘ fun row => row.map Tile.toLevelCell) row = row := by
    intro row isRow
    rw [Function.comp_apply, List.map_map]
    conv_rhs => rw [← List.map_id row]
    apply List.map_congr_left
    intro tile inRow
    exact (authored tile (List.mem_flatten_of_mem isRow inRow)).ofLevelCell_toLevelCell
  rw [ofLevelRows, toLevelRows, ← List.map_reverse, List.reverse_reverse, List.map_map,
    List.map_congr_left again, List.map_id', rectangular.ofRows_rows wide tall]

/-- A level asks for the tiles of its grid. -/
theorem authored_of_ofLevelRows {map : List (List LevelCell)} {grid : Grid}
    (made : ofLevelRows map = .ok grid) {tile : Tile} (member : tile ∈ grid.tiles) :
    tile.Authored := by
  obtain ⟨_, _, cell, _, rfl⟩ := exists_of_mem_tiles made member
  exact Tile.authored_ofLevelCell cell

end Grid

/-- A heading is that of its number. -/
theorem Heading.ofIndex?_index (heading : Heading) : ofIndex? heading.index = some heading := by
  cases heading <;> rfl

end Lamplighter
