import Lamplighter.Proofs.Level.Playable
import Lamplighter.Proofs.World.Play

/-!
# Exporting a world

A world keeps what it was loaded from, so whatever is played, the same level is exported: the loaded
one, in which lamps on the ground plane have become blocks. `Level.grounded` is this normal form of
levels. It loads as the level does, and a level is in normal form exactly when it is exported
unchanged: `World.toLevel_obeyAll_of_load`.
-/

namespace Lamplighter

/-- A list is not changed item by item exactly when no item of it is changed. -/
theorem map_eq_self_iff {α : Type} {change : α → α} {list : List α} :
    list.map change = list ↔ ∀ item ∈ list, change item = item := by
  simpa using List.map_inj_left (l := list) (f := change) (g := id)

/-! ## Lamps on the ground plane -/

/-- A lamp on the ground plane becomes a block. -/
def LevelCell.grounded (cell : LevelCell) : LevelCell :=
  if cell.mark = .lamp ∧ cell.height = 0 then { cell with mark := .block } else cell

/-- The level in which lamps on the ground plane have become blocks. -/
def Level.grounded (level : Level) : Level :=
  { level with map := level.map.map fun row => row.map LevelCell.grounded }

namespace LevelCell

/-- A cell is already grounded unless it is a lamp on the ground plane. -/
theorem grounded_eq_self_iff {cell : LevelCell} :
    cell.grounded = cell ↔ (cell.mark = .lamp → cell.height ≠ 0) := by
  obtain ⟨height, mark⟩ := cell
  cases mark with
  | block => simp [grounded]
  | lamp => by_cases flat : height = 0 <;> simp [grounded, flat]

/-- The tile of a cell is described by the grounded cell. -/
theorem toLevelCell_ofLevelCell (cell : LevelCell) :
    (Tile.ofLevelCell cell).toLevelCell = cell.grounded := by
  obtain ⟨height, mark⟩ := cell
  cases mark with
  | block => rfl
  | lamp =>
      by_cases raised : 0 < height
      · have notFlat : height ≠ 0 := (UInt32.ne_of_lt raised).symm
        simp [Tile.ofLevelCell, raised, Tile.lamp, Tile.toLevelCell, Tile.isLamp, grounded, notFlat]
      · have flat : height = 0 := by simpa using raised
        simp [Tile.ofLevelCell, flat, Tile.ground, Tile.toLevelCell, Tile.isLamp, grounded]

/-- A cell and the grounded one have the same tile. -/
theorem ofLevelCell_grounded (cell : LevelCell) :
    Tile.ofLevelCell cell.grounded = Tile.ofLevelCell cell := by
  rw [← toLevelCell_ofLevelCell]
  exact (Tile.authored_ofLevelCell cell).ofLevelCell_toLevelCell

end LevelCell

namespace Level

/-- A level is already grounded unless it has a lamp on the ground plane. -/
theorem grounded_eq_self_iff {level : Level} :
    level.grounded = level ↔
      ∀ row ∈ level.map, ∀ cell ∈ row, cell.mark = .lamp → cell.height ≠ 0 := by
  have rows : level.grounded = level ↔
      level.map.map (fun row => row.map LevelCell.grounded) = level.map := by
    constructor
    · exact congrArg Level.map
    · intro same
      rw [grounded, same]
  rw [rows, map_eq_self_iff]
  refine forall₂_congr fun row isRow => ?_
  rw [map_eq_self_iff]
  exact forall₂_congr fun cell isCell => LevelCell.grounded_eq_self_iff

/-- A level and the grounded one make the same grid, or none for the same reason. -/
theorem ofLevelRows_grounded (level : Level) :
    Grid.ofLevelRows level.grounded.map = Grid.ofLevelRows level.map := by
  have rows : level.grounded.map.reverse.map (fun row => row.map Tile.ofLevelCell) =
      level.map.reverse.map fun row => row.map Tile.ofLevelCell := by
    simp only [grounded, ← List.map_reverse, List.map_map, Function.comp_def,
      LevelCell.ofLevelCell_grounded]
  rw [Grid.ofLevelRows, rows, Grid.ofLevelRows]

end Level

/-- A grid that is made of the rows of a level is described by its grounded rows. -/
theorem Grid.toLevelRows_of_ofLevelRows {level : Level} {grid : Grid}
    (made : ofLevelRows level.map = .ok grid) : grid.toLevelRows = level.grounded.map := by
  rw [toLevelRows, (of_ofRows_eq_ok made).1, ← List.map_reverse, List.reverse_reverse]
  simp only [Level.grounded, List.map_map, Function.comp_def, LevelCell.toLevelCell_ofLevelCell]

/-- A number is that of its heading. -/
theorem Heading.index_of_ofIndex? {index : UInt8} {heading : Heading}
    (known : ofIndex? index = some heading) : heading.index = index := by
  have inside : index.toNat < all.length := (List.getElem?_eq_some_iff.1 known).1
  have same : all[index.toNat]? = all[heading.index.toNat]? :=
    known.trans (ofIndex?_index heading).symm
  exact (UInt8.toNat_inj.1 ((List.getElem?_inj inside (by decide)).1 same)).symm

/-! ## What is exported -/

namespace World

/-- A level and the grounded one are loaded alike. -/
theorem load_grounded (level : Level) : load level.grounded = load level := by
  simp only [load, level.ofLevelRows_grounded]
  rfl

/-- Whatever has been played on a loaded level, it is exported with its lamps on the ground plane
turned into blocks. -/
theorem PlayedFrom.toLevel_eq {level : Level} {fresh world : World}
    (loaded : load level = .ok fresh) (played : fresh.PlayedFrom world) :
    world.toLevel level.medals = level.grounded := by
  obtain ⟨grid, heading, made, known, _, _, rfl⟩ := of_load_eq_ok loaded
  rw [toLevel, played.initial, played.spawn, Grid.toLevelRows_of_ofLevelRows made,
    Heading.index_of_ofIndex? known]
  rfl

/-- A level is loaded exactly when it is playable, and refused exactly for what is wrong with it.
Whatever is then done in the world, the loaded level is exported, in which every lamp on the ground
plane has become a block and nothing else has changed. This is the loaded level itself exactly when
it has no such lamp, and in any case it is loaded as the same world. -/
theorem toLevel_obeyAll_of_load (level : Level) :
    ((∃ world, load level = .ok world) ↔ level.Playable) ∧
      (∀ failure, load level = .error failure ↔ level.Fails failure) ∧
      ∀ world, load level = .ok world → ∀ commands : List Command,
        let exported := (world.obeyAll commands).toLevel level.medals
        exported = level.grounded ∧ load exported = .ok world ∧
          (exported = level ↔
            ∀ row ∈ level.map, ∀ cell ∈ row, cell.mark = .lamp → cell.height ≠ 0) := by
  refine ⟨exists_load_iff, fun failure => load_eq_error_iff, ?_⟩
  intro world loaded commands exported
  have isFresh := fresh_of_load loaded
  have played : world.PlayedFrom (world.obeyAll commands) := isFresh.playedFrom.obeyAll isFresh _
  have same : exported = level.grounded := played.toLevel_eq loaded
  refine ⟨same, ?_, ?_⟩
  · rw [same, load_grounded, loaded]
  · rw [same, Level.grounded_eq_self_iff]

/-- Two rows of two cells, with a lamp on the ground plane and one above it. -/
def pier : Level where
  direction := 3
  position := ⟨1, 0⟩
  map := [[LevelPack.lamp 0, LevelPack.block 2], [LevelPack.lamp 1, LevelPack.block 1]]
  medals := ⟨2, 3, 4⟩

/-- The lamp of the pier is lit, and the flat one is exported as a block. -/
theorem toLevel_obeyAll_of_load_pier :
    ∃ world, load pier = .ok world ∧
      let current := world.obeyAll [.perform .walk, .perform .light]
      current.isSolved = true ∧ current.toLevel pier.medals = pier.grounded ∧
        pier.grounded.map =
          [[LevelPack.block 0, LevelPack.block 2], [LevelPack.lamp 1, LevelPack.block 1]] ∧
        current.toLevel pier.medals ≠ pier ∧ load pier.grounded = .ok world := by
  obtain ⟨_, _, exports⟩ := toLevel_obeyAll_of_load pier
  have loaded : load pier = .ok _ := rfl
  obtain ⟨same, again, unchanged⟩ := exports _ loaded [.perform .walk, .perform .light]
  refine ⟨_, loaded, by decide, same, rfl, ?_, ?_⟩
  · rw [ne_eq, unchanged]
    decide
  · rw [← same]
    exact again

end World

end Lamplighter
