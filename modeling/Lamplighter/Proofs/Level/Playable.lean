import Lamplighter.Proofs.Grid.Export
import Mathlib.Data.List.MinMax
import Mathlib.Data.List.Perm.Basic
import Mathlib.Order.Nat

/-!
# Levels that can be played

What makes a level playable, and what is wrong with one that is not, is said of the level alone:
`Level.Playable` and `Level.Fails`. A level that is not playable has exactly one fault that counts,
the first in a fixed order, and `World.load_eq_error_iff` says that loading names just this one.
-/

namespace Lamplighter

/-! ## What is said of a level -/

namespace Level

/-- Some row has a cell. -/
def HasCell (level : Level) : Prop := ∃ row ∈ level.map, row ≠ []

/-- All rows are equally long. -/
def Even (level : Level) : Prop := ∀ row ∈ level.map, ∀ other ∈ level.map, row.length = other.length

/-- The length of the widest row. -/
def columns (level : Level) : Nat := (level.map.map List.length).foldr max 0

/-- The number of the heading means one. -/
def Headed (level : Level) : Prop := level.direction.toNat ≤ 3

/-- The robot starts inside the map, which reaches from the origin to its widest row and to its last
row. -/
def StartsInside (level : Level) : Prop :=
  (0 ≤ level.position.x.toInt ∧ level.position.x.toInt < level.columns) ∧
    (0 ≤ level.position.y.toInt ∧ level.position.y.toInt < level.map.length)

/-- Some cell is marked as a lamp and raised from the ground plane. -/
def HasLamp (level : Level) : Prop :=
  ∃ row ∈ level.map, ∃ cell ∈ row, cell.mark = .lamp ∧ 0 < cell.height

/-- All that a level needs in order to be played. -/
structure Playable (level : Level) : Prop where
  cells : level.HasCell
  even : level.Even
  headed : level.Headed
  inside : level.StartsInside
  lamp : level.HasLamp

/-- What is wrong with a level. Of several faults the first in this order counts. Rows are numbered
from the last one of the level, which is the first from the top of the picture. -/
inductive Fails (level : Level) : LevelError → Prop where
  | empty (bare : ¬ level.HasCell) : Fails level .empty
  | raggedRow {row : Nat} {cells : List LevelCell} (isRow : level.map.reverse[row]? = some cells)
      (shorter : cells.length < level.columns)
      (first : ∀ earlier < row, ∀ cells, level.map.reverse[earlier]? = some cells →
        cells.length = level.columns) :
      Fails level (.raggedRow row level.columns cells.length)
  | badDirection (cells : level.HasCell) (even : level.Even) (unknown : ¬ level.Headed) :
      Fails level (.badDirection level.direction)
  | spawnOutOfBounds (cells : level.HasCell) (even : level.Even) (headed : level.Headed)
      (outside : ¬ level.StartsInside) :
      Fails level (.spawnOutOfBounds level.position level.columns level.map.length)
  | noLamps (cells : level.HasCell) (even : level.Even) (headed : level.Headed)
      (inside : level.StartsInside) (dark : ¬ level.HasLamp) : Fails level .noLamps

/-! ## The widest row -/

section Widest

variable {level : Level}

/-- No row is wider than the widest one. -/
theorem length_le_columns {row : List LevelCell} (isRow : row ∈ level.map) :
    row.length ≤ level.columns :=
  List.le_max_of_le (List.mem_map_of_mem isRow) (Nat.le_refl _)

/-- The widest row is one of the rows, if there are any. -/
theorem exists_length_eq_columns (rows : level.map ≠ []) :
    ∃ row ∈ level.map, row.length = level.columns := by
  rw [columns]
  generalize level.map = map at rows ⊢
  induction map with
  | nil => exact absurd rfl rows
  | cons first rest inductionHypothesis =>
      rw [List.map_cons, List.foldr_cons]
      rcases Nat.le_total ((rest.map List.length).foldr max 0) first.length with wide | narrow
      · exact ⟨first, List.mem_cons_self, (Nat.max_eq_left wide).symm⟩
      · rw [Nat.max_eq_right narrow]
        rcases eq_or_ne rest [] with rfl | further
        · exact ⟨first, List.mem_cons_self, Nat.le_zero.1 narrow⟩
        · obtain ⟨row, isRow, widest⟩ := inductionHypothesis further
          exact ⟨row, List.mem_cons_of_mem _ isRow, widest⟩

/-- There is a cell exactly when the widest row has one. -/
theorem hasCell_iff : level.HasCell ↔ level.columns ≠ 0 := by
  constructor
  · rintro ⟨row, isRow, some⟩ none
    have narrow := length_le_columns isRow
    rw [none, Nat.le_zero] at narrow
    exact some (List.length_eq_zero_iff.1 narrow)
  · intro wide
    have rows : level.map ≠ [] := fun none => wide (by rw [columns, none]; rfl)
    obtain ⟨row, isRow, widest⟩ := exists_length_eq_columns rows
    exact ⟨row, isRow, fun none => wide (by rw [← widest, none]; rfl)⟩

/-- Rows are equally long exactly when all are as long as the widest one. -/
theorem even_iff : level.Even ↔ ∀ row ∈ level.map, row.length = level.columns := by
  constructor
  · intro even row isRow
    obtain ⟨widest, isWidest, columns⟩ := exists_length_eq_columns (List.ne_nil_of_mem isRow)
    rw [← columns]
    exact even row isRow widest isWidest
  · intro wide row isRow other isOther
    rw [wide row isRow, wide other isOther]

end Widest

/-! ## Faults -/

/-- A level whose rows are not equally long has a first row, from the top of the picture, that is
shorter than the widest one. -/
theorem exists_raggedRow {level : Level} (ragged : ¬ level.Even) :
    ∃ row found, level.Fails (.raggedRow row level.columns found) := by
  rw [even_iff] at ragged
  push Not at ragged
  obtain ⟨short, isShort, narrow⟩ := ragged
  have found : (level.map.reverse.findIdx? fun row => row.length ≠ level.columns) ≠ none := by
    rw [ne_eq, List.findIdx?_eq_none_iff]
    intro none
    exact narrow (by simpa using none short (List.mem_reverse.2 isShort))
  obtain ⟨row, isFirst⟩ := Option.ne_none_iff_exists'.1 found
  obtain ⟨inside, differs, first⟩ := List.findIdx?_eq_some_iff_getElem.1 isFirst
  refine ⟨row, _, .raggedRow (List.getElem?_eq_getElem inside) ?_ ?_⟩
  · have narrower := length_le_columns (List.mem_reverse.1 (List.getElem_mem inside))
    have differs : level.map.reverse[row].length ≠ level.columns := by simpa using differs
    omega
  · intro earlier before cells isRow
    have same := first earlier before
    rw [(List.getElem?_eq_some_iff.1 isRow).2] at same
    simpa using same

/-- A level that is not playable has a fault. -/
theorem playable_or_fails (level : Level) : level.Playable ∨ ∃ failure, level.Fails failure := by
  by_cases cells : level.HasCell
  case neg => exact .inr ⟨_, .empty cells⟩
  by_cases even : level.Even
  case neg =>
    obtain ⟨row, found, fails⟩ := exists_raggedRow even
    exact .inr ⟨_, fails⟩
  by_cases headed : level.Headed
  case neg => exact .inr ⟨_, .badDirection cells even headed⟩
  by_cases inside : level.StartsInside
  case neg => exact .inr ⟨_, .spawnOutOfBounds cells even headed inside⟩
  by_cases lamp : level.HasLamp
  case neg => exact .inr ⟨_, .noLamps cells even headed inside lamp⟩
  exact .inl ⟨cells, even, headed, inside, lamp⟩

end Level

/-! ## The grid of a level -/

/-- The tile of a cell is a lamp where the cell is marked as one and raised from the ground. -/
theorem Tile.isLamp_ofLevelCell (cell : LevelCell) :
    (ofLevelCell cell).isLamp = true ↔ cell.mark = .lamp ∧ 0 < cell.height := by
  obtain ⟨height, mark⟩ := cell
  cases mark with
  | block => simp [ofLevelCell, ground, isLamp]
  | lamp =>
      simp only [ofLevelCell, true_and]
      split
      next raised => simpa [lamp, isLamp] using raised
      next flat => simpa [ground, isLamp] using flat

namespace Grid

section Level

variable {level : Level}

/-- The widest row of the tiles is as wide as that of the level. -/
theorem widest_eq_columns :
    ((level.map.reverse.map fun row => row.map Tile.ofLevelCell).map List.length).foldr max 0 =
      level.columns := by
  have lengths : (level.map.reverse.map fun row => row.map Tile.ofLevelCell).map List.length =
      (level.map.map List.length).reverse := by
    simp [Function.comp_def]
  rw [lengths, Level.columns]
  exact (List.reverse_perm _).foldr_eq 0

/-- Without a cell there is no grid. -/
theorem ofLevelRows_of_bare (bare : ¬ level.HasCell) :
    ofLevelRows level.map = .error .empty := by
  rw [Level.hasCell_iff, not_not] at bare
  simp only [ofLevelRows, ofRows, widest_eq_columns, bare, if_true]

/-- Where a row is the first that is shorter than the widest one, it is named. -/
theorem ofLevelRows_of_ragged {row : Nat} {cells : List LevelCell}
    (isRow : level.map.reverse[row]? = some cells) (shorter : cells.length < level.columns)
    (first : ∀ earlier < row, ∀ cells, level.map.reverse[earlier]? = some cells →
      cells.length = level.columns) :
    ofLevelRows level.map = .error (.raggedRow row level.columns cells.length) := by
  have wide : level.columns ≠ 0 := by omega
  have found : (level.map.reverse.map fun row => row.map Tile.ofLevelCell).findIdx?
      (fun row => row.length ≠ level.columns) = some row := by
    obtain ⟨inside, same⟩ := List.getElem?_eq_some_iff.1 isRow
    rw [List.findIdx?_eq_some_iff_getElem]
    refine ⟨by simpa using inside, ?_, ?_⟩
    · simpa only [List.getElem_map, List.length_map, same, decide_eq_true_eq] using
        Nat.ne_of_lt shorter
    · intro earlier before
      have inEarlier : earlier < level.map.reverse.length := Nat.lt_trans before inside
      have even := first earlier before _ (List.getElem?_eq_getElem inEarlier)
      simpa using even
  simp only [ofLevelRows, ofRows, widest_eq_columns, wide, if_false, found, List.getElem?_map,
    isRow, Option.map_some, Option.getD_some, List.length_map]

/-- Rows that are equally long and not empty make a grid of their size. -/
theorem exists_ofLevelRows (cells : level.HasCell) (even : level.Even) :
    ∃ grid, ofLevelRows level.map = .ok grid ∧ grid.columns = level.columns ∧
      grid.rowCount = level.map.length := by
  rw [Level.hasCell_iff] at cells
  rw [Level.even_iff] at even
  have found : (level.map.reverse.map fun row => row.map Tile.ofLevelCell).findIdx?
      (fun row => row.length ≠ level.columns) = none := by
    rw [List.findIdx?_eq_none_iff]
    simpa using even
  refine ⟨⟨level.columns, level.map.reverse.map fun row => row.map Tile.ofLevelCell⟩, ?_, rfl, ?_⟩
  · simp only [ofLevelRows, ofRows, widest_eq_columns, cells, if_false, found]
  · simp [rowCount]

/-- A cell is on a grid when its coordinates are among the columns and the rows. -/
theorem contains_iff {grid : Grid} {cell : Cell} :
    grid.contains cell = true ↔
      (0 ≤ cell.x.toInt ∧ cell.x.toInt < grid.columns) ∧
        (0 ≤ cell.y.toInt ∧ cell.y.toInt < grid.rowCount) := by
  constructor
  · intro inside
    obtain ⟨inColumns, inRows, _⟩ := of_contains inside
    exact ⟨inColumns, inRows⟩
  · rintro ⟨⟨left, right⟩, ⟨bottom, top⟩⟩
    have inside : cell.x.toInt.toNat < grid.columns ∧ cell.y.toInt.toNat < grid.rowCount := by
      omega
    simp only [contains, indices?, Cell.indices?, Int32.le_iff_toInt_le, Int32.toInt_zero, left,
      bottom, inside, and_self, if_true, Option.isSome_some]

/-- The grid of a level has a lamp exactly when the level has one. -/
theorem lampCount_ne_zero_iff {grid : Grid} (made : ofLevelRows level.map = .ok grid) :
    grid.lampCount ≠ 0 ↔ level.HasLamp := by
  rw [lampCount, ← Nat.pos_iff_ne_zero, List.countP_pos_iff]
  constructor
  · rintro ⟨tile, isTile, lamp⟩
    obtain ⟨row, isRow, cell, isCell, rfl⟩ := exists_of_mem_tiles made isTile
    exact ⟨row, isRow, cell, isCell, (Tile.isLamp_ofLevelCell cell).1 lamp⟩
  · rintro ⟨row, isRow, cell, isCell, lamp⟩
    refine ⟨Tile.ofLevelCell cell, ?_, (Tile.isLamp_ofLevelCell cell).2 lamp⟩
    rw [tiles, (of_ofRows_eq_ok made).1]
    exact List.mem_flatten_of_mem (List.mem_map_of_mem (List.mem_reverse.2 isRow))
      (List.mem_map_of_mem isCell)

end Level

end Grid

/-! ## Loading -/

/-- The numbers from zero to three mean headings. -/
theorem Heading.exists_ofIndex? {index : UInt8} (headed : index.toNat ≤ 3) :
    ∃ heading, ofIndex? index = some heading := by
  have known : index.toNat < all.length := Nat.lt_succ_of_le headed
  exact ⟨all[index.toNat], List.getElem?_eq_getElem known⟩

/-- Other numbers mean none. -/
theorem Heading.ofIndex?_eq_none {index : UInt8} (unknown : ¬ index.toNat ≤ 3) :
    ofIndex? index = none :=
  List.getElem?_eq_none (Nat.lt_of_not_le unknown)

namespace World

section Load

variable {level : Level}

/-- A level with a fault is not loaded, and its fault is named. -/
theorem load_of_fails {failure : LevelError} (fails : level.Fails failure) :
    load level = .error failure := by
  cases fails with
  | empty bare => simp [load, Grid.ofLevelRows_of_bare bare, bind, Except.bind]
  | raggedRow isRow shorter first =>
      simp [load, Grid.ofLevelRows_of_ragged isRow shorter first, bind, Except.bind]
  | badDirection cells even unknown =>
      obtain ⟨grid, made, _⟩ := Grid.exists_ofLevelRows cells even
      simp [load, made, Heading.ofIndex?_eq_none unknown, bind, Except.bind]
  | spawnOutOfBounds cells even headed outside =>
      obtain ⟨grid, made, columns, rowCount⟩ := Grid.exists_ofLevelRows cells even
      obtain ⟨heading, known⟩ := Heading.exists_ofIndex? headed
      have notInside : grid.contains level.position = false := by
        rw [Level.StartsInside, ← columns, ← rowCount, ← Grid.contains_iff] at outside
        exact Bool.eq_false_of_not_eq_true outside
      simp [load, made, known, notInside, columns, rowCount, bind, Except.bind]
  | noLamps cells even headed inside dark =>
      obtain ⟨grid, made, columns, rowCount⟩ := Grid.exists_ofLevelRows cells even
      obtain ⟨heading, known⟩ := Heading.exists_ofIndex? headed
      have isInside : grid.contains level.position = true := by
        rwa [Grid.contains_iff, columns, rowCount]
      have noLamp : grid.lampCount = 0 := by
        rwa [← Grid.lampCount_ne_zero_iff made, not_not] at dark
      simp [load, made, known, isInside, noLamp, bind, Except.bind]

/-- A level that is playable is loaded. -/
theorem exists_load_of_playable (playable : level.Playable) : ∃ world, load level = .ok world := by
  obtain ⟨grid, made, columns, rowCount⟩ := Grid.exists_ofLevelRows playable.cells playable.even
  obtain ⟨heading, known⟩ := Heading.exists_ofIndex? playable.headed
  have isInside : grid.contains level.position = true := by
    rw [Grid.contains_iff, columns, rowCount]
    exact playable.inside
  have lamps := (Grid.lampCount_ne_zero_iff made).2 playable.lamp
  simp [load, made, known, isInside, lamps, bind, Except.bind, pure, Except.pure]

/-- A level is loaded exactly when it is playable. -/
theorem exists_load_iff : (∃ world, load level = .ok world) ↔ level.Playable := by
  refine ⟨?_, exists_load_of_playable⟩
  rintro ⟨world, loaded⟩
  rcases level.playable_or_fails with playable | ⟨failure, fails⟩
  · exact playable
  · simp [load_of_fails fails] at loaded

/-- A level is refused exactly for what is wrong with it. -/
theorem load_eq_error_iff {failure : LevelError} :
    load level = .error failure ↔ level.Fails failure := by
  refine ⟨?_, load_of_fails⟩
  intro refused
  rcases level.playable_or_fails with playable | ⟨other, fails⟩
  · obtain ⟨world, loaded⟩ := exists_load_of_playable playable
    simp [loaded] at refused
  · obtain rfl : failure = other := Except.error.inj (refused.symm.trans (load_of_fails fails))
    exact fails

end Load

end World

end Lamplighter
