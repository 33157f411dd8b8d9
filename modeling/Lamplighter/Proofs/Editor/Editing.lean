import Lamplighter.Editor
import Lamplighter.LevelPack
import Lamplighter.Proofs.Editor.Copying
import Lamplighter.Proofs.Grid.Export

/-!
# Editing maps

`Editor.Sound` is the invariant of editing: the map is a rectangle that is not empty, a level can
ask for all its tiles, and the robot starts on it. So every map can be written as a level, and the
level loads, with the tiles and the start of the map, as soon as there is something to light:
`Editor.obeyAll_new`.
-/

namespace Lamplighter

/-- What can be done with an editor. -/
inductive Editor.Command where
  | choose (tool : Tool)
  | face (heading : Heading)
  | view (camera : Camera) (viewport : Point)
  | rotateLeft
  | rotateRight
  | apply (cell : Cell)
  | click (screen : Point)
  | resize (columns rows : Nat)
  | clear
  | load (level : Level)
deriving DecidableEq, Repr

namespace Editor

/-- The editor after a command. A level that cannot be loaded leaves it as it is. -/
def obey (editor : Editor) : Command → Editor
  | .choose tool => { editor with tool }
  | .face heading => { editor with spawnHeading := heading }
  | .view camera viewport => { editor with camera, viewport }
  | .rotateLeft => editor.rotateLeft
  | .rotateRight => editor.rotateRight
  | .apply cell => editor.apply cell
  | .click screen => editor.click screen
  | .resize columns rows => editor.resize columns rows
  | .clear => editor.clear
  | .load level =>
      match editor.load level with
      | .ok loaded => loaded
      | .error _ => editor

/-- The editor after some commands, one after the other. -/
def obeyAll (editor : Editor) (commands : List Command) : Editor := commands.foldl obey editor

/-- The map of an editor as a grid. -/
def grid (editor : Editor) : Grid := ⟨editor.columns, editor.tiles⟩

/-- A map that can be written as a level and read back. -/
structure Sound (editor : Editor) : Prop where
  rectangular : editor.grid.Rectangular
  small : editor.grid.Small
  /-- Lamps are unlit and raised from the ground plane. -/
  authored : ∀ tile ∈ editor.grid.tiles, tile.Authored
  /-- The robot starts on the map, so there are a row and a column. -/
  spawn : editor.grid.contains editor.spawn.position = true

/-! ## What keeps an editor sound -/

/-- What is known of a level that can be loaded and copied, and what it makes of an editor. -/
theorem of_load_eq_ok_of_addressable {editor loaded : Editor} {level : Level}
    (addressable : level.Addressable) (accepted : editor.load level = .ok loaded) :
    ∃ grid heading,
      Grid.ofLevelRows level.map = .ok grid ∧
      Heading.ofIndex? level.direction = some heading ∧
      grid.contains level.position = true ∧
      loaded = { editor with
        tiles := grid.rows
        spawn := ⟨level.position, heading⟩
        spawnHeading := heading } := by
  cases made : Grid.ofLevelRows level.map with
  | error failure => simp [load, made, bind, Except.bind] at accepted
  | ok grid =>
      simp only [load, made, bind, Except.bind] at accepted
      split at accepted
      next => simp at accepted
      next heading known =>
        split at accepted
        next inside =>
          have rectangular := (Grid.of_ofRows_eq_ok made).2
          obtain ⟨wide, tall⟩ := Grid.ne_zero_of_contains inside
          obtain ⟨columns, rows⟩ := rectangular.sides_le wide tall (addressable grid made)
          obtain rfl := Except.ok.inj accepted
          refine ⟨grid, heading, rfl, known, inside, ?_⟩
          rw [editor.put_cells rectangular columns rows, flattened]
        next => simp at accepted

/-- What is known of a small level that can be loaded, and what it makes of an editor. -/
theorem of_load_eq_ok {editor loaded : Editor} {level : Level} (small : level.Small)
    (accepted : editor.load level = .ok loaded) :
    ∃ grid heading,
      Grid.ofLevelRows level.map = .ok grid ∧
      Heading.ofIndex? level.direction = some heading ∧
      grid.contains level.position = true ∧
      loaded = { editor with
        tiles := grid.rows
        spawn := ⟨level.position, heading⟩
        spawnHeading := heading } :=
  of_load_eq_ok_of_addressable small.addressable accepted

/-- A map shows the grid whose rows are its tiles. -/
theorem grid_eq {editor : Editor} {grid : Grid} (tiles : editor.tiles = grid.rows)
    (rectangular : grid.Rectangular) (tall : grid.rowCount ≠ 0) : editor.grid = grid := by
  obtain ⟨columns, rows⟩ := grid
  cases rows with
  | nil => exact absurd rfl tall
  | cons first rest =>
      have width : first.length = columns := rectangular first List.mem_cons_self
      have wide : editor.columns = columns := by simp [Editor.columns, tiles, width]
      rw [Editor.grid, wide, tiles]

/-- An editor is sound where the grid that its map shows is, and holds the start. -/
theorem sound_of_grid {editor : Editor} {grid : Grid} (tiles : editor.tiles = grid.rows)
    (rectangular : grid.Rectangular) (small : grid.Small)
    (authored : ∀ tile ∈ grid.tiles, tile.Authored)
    (spawn : grid.contains editor.spawn.position = true) : editor.Sound := by
  obtain rfl := grid_eq tiles rectangular (Grid.ne_zero_of_contains spawn).2
  exact ⟨rectangular, small, authored, spawn⟩

/-- A flat map with some cells is sound: it starts in the middle. -/
theorem sound_flattened (editor : Editor) {columns rows : Nat} (wide : 0 < columns)
    (tall : 0 < rows) (smallColumns : columns < 2147483648) (smallRows : rows < 2147483648) :
    (editor.flattened columns rows).Sound := by
  let flat : Grid := ⟨columns, List.replicate rows (List.replicate columns (.ground 0))⟩
  have rectangular : flat.Rectangular := by
    intro row isRow
    rw [List.eq_of_mem_replicate isRow, List.length_replicate]
  have rowCount : flat.rowCount = rows := List.length_replicate
  have small : flat.Small := ⟨smallColumns, rowCount ▸ smallRows⟩
  refine @sound_of_grid _ flat rfl rectangular small ?_ ?_
  · intro tile member
    obtain ⟨row, isRow, inRow⟩ := List.mem_flatten.1 member
    rw [List.eq_of_mem_replicate isRow] at inRow
    rw [List.eq_of_mem_replicate inRow]
    exact Tile.authored_ground 0
  · refine small.contains_ofIndices (Nat.div_lt_self wide (by decide)) ?_
    rw [rowCount]
    exact Nat.div_lt_self tall (by decide)

/-- A new editor is sound. -/
theorem sound_new (viewport : Point) : (new viewport).Sound :=
  sound_flattened _ (by decide) (by decide) (by decide) (by decide)

/-- A side that can be had lies between the least and the greatest one. -/
theorem allowedSize_bounds (size : Nat) : 3 ≤ allowedSize size ∧ allowedSize size ≤ 12 := by
  rw [allowedSize, minSize, maxSize]
  omega

section Preservation

variable {editor : Editor} (sound : editor.Sound)
include sound

/-- There is a column. -/
theorem Sound.wide : editor.grid.columns ≠ 0 := (Grid.ne_zero_of_contains sound.spawn).1

/-- There is a row. -/
theorem Sound.tall : editor.grid.rowCount ≠ 0 := (Grid.ne_zero_of_contains sound.spawn).2

/-- The tiles of a sound map are those of its grid. -/
theorem Sound.tile?_grid (cell : Cell) : editor.grid.tile? cell = editor.tile? cell := by
  rw [sound.rectangular.tile?_eq, tile?]
  rfl

theorem Sound.clear : editor.clear.Sound :=
  sound_flattened _ (Nat.pos_of_ne_zero sound.wide) (Nat.pos_of_ne_zero sound.tall)
    sound.small.columns sound.small.rows

/-- Changing tiles one by one keeps the map sound where it keeps them such that a level can ask for
them. -/
theorem Sound.of_forall₂ {other : Editor}
    (tiles : List.Forall₂ (List.Forall₂ fun before after : Tile =>
      before.Authored → after.Authored) editor.tiles other.tiles)
    (spawn : other.spawn = editor.spawn) : other.Sound := by
  have rowCount : other.grid.rowCount = editor.grid.rowCount := tiles.length_eq.symm
  have columns : other.grid.columns = editor.grid.columns := by
    simp only [grid, Editor.columns]
    generalize editor.tiles = before at tiles
    generalize other.tiles = after at tiles
    cases tiles with
    | nil => rfl
    | cons first _ => simp [first.length_eq]
  refine ⟨?_, ?_, ?_, ?_⟩
  · intro row isRow
    obtain ⟨earlier, isEarlier, sameRow⟩ := exists_of_mem_forall₂ tiles isRow
    rw [columns, ← sound.rectangular earlier isEarlier]
    exact sameRow.length_eq.symm
  · exact ⟨columns ▸ sound.small.columns, rowCount ▸ sound.small.rows⟩
  · intro tile isTile
    obtain ⟨earlier, isEarlier, keeps⟩ := exists_of_mem_forall₂ (List.rel_flatten tiles) isTile
    exact keeps (sound.authored earlier isEarlier)
  · rw [spawn, ← sound.spawn]
    simp only [Grid.contains, Grid.indices?, columns, rowCount]

/-- Whatever has the same tiles and the same start is as sound. -/
theorem Sound.of_eq {other : Editor} (tiles : other.tiles = editor.tiles)
    (spawn : other.spawn = editor.spawn) : other.Sound := by
  refine sound.of_forall₂ ?_ spawn
  rw [tiles]
  exact List.forall₂_same.2 fun _ _ => List.forall₂_same.2 fun _ _ => id

/-- Changing one tile to another for which a level can ask keeps the map sound. -/
theorem Sound.update (cell : Cell) {change : Tile → Tile}
    (authored : ∀ tile, (change tile).Authored) : (editor.update cell change).Sound := by
  unfold Editor.update
  split
  next column row _ =>
    refine sound.of_forall₂ (forall₂_modify ?_ ?_ editor.tiles row) rfl
    · exact fun tiles => List.forall₂_same.2 fun _ _ => id
    · exact fun tiles => forall₂_modify (fun _ => id) (fun tile _ => authored tile) tiles column
  next => exact sound

theorem Sound.apply (cell : Cell) : (editor.apply cell).Sound := by
  unfold Editor.apply
  split
  next => exact sound
  next tile found =>
    cases editor.tool with
    | block => exact sound.update cell fun tile => Tile.authored_ground _
    | lamp =>
        refine sound.update cell fun tile => Tile.authored_lamp ?_
        rw [UInt32.le_iff_toNat_le, UInt32.toNat_max]
        exact Nat.le_max_right _ _
    | erase => exact sound.update cell fun tile => Tile.authored_ground 0
    | spawn =>
        refine ⟨sound.rectangular, sound.small, sound.authored, ?_⟩
        rw [← sound.tile?_grid] at found
        exact Grid.contains_of_tile? found

theorem Sound.click (screen : Point) : (editor.click screen).Sound := by
  unfold Editor.click
  split
  next cell _ => exact sound.apply cell
  next => exact sound

/-- Loading a small level keeps an editor sound, whether the level is accepted or not. -/
theorem Sound.load {level : Level} (small : level.Small) : (editor.obey (.load level)).Sound := by
  rw [Editor.obey]
  split
  next loaded accepted =>
    obtain ⟨grid, heading, made, _, inside, makes⟩ := of_load_eq_ok small accepted
    have smallGrid := Grid.small_of_ofLevelRows small made (Grid.ne_zero_of_contains inside).2
    refine sound_of_grid (by rw [makes]) (Grid.of_ofRows_eq_ok made).2 smallGrid
      (fun tile => Grid.authored_of_ofLevelRows made) ?_
    rw [makes]
    exact inside
  next => exact sound

/-- Every command keeps an editor sound. -/
theorem Sound.obey {command : Command} (small : ∀ level, command = .load level → level.Small) :
    (editor.obey command).Sound := by
  cases command with
  | choose tool => exact sound.of_eq rfl rfl
  | face heading => exact sound.of_eq rfl rfl
  | view camera viewport => exact sound.of_eq rfl rfl
  | rotateLeft => exact sound.of_eq rfl rfl
  | rotateRight => exact sound.of_eq rfl rfl
  | apply cell => exact sound.apply cell
  | click screen => exact sound.click screen
  | resize columns rows =>
      have wide := allowedSize_bounds columns
      have tall := allowedSize_bounds rows
      exact sound_flattened _ (by omega) (by omega) (by omega) (by omega)
  | clear => exact sound.clear
  | load level => exact sound.load (small level rfl)

/-- So do all of them, one after the other. -/
theorem Sound.obeyAll {commands : List Command}
    (small : ∀ level, .load level ∈ commands → level.Small) : (editor.obeyAll commands).Sound := by
  induction commands generalizing editor with
  | nil => exact sound
  | cons command rest inductionHypothesis =>
      refine inductionHypothesis (sound.obey ?_) ?_
      · rintro level rfl
        exact small level List.mem_cons_self
      · exact fun level later => small level (List.mem_cons_of_mem _ later)

/-! ## What a sound editor writes -/

/-- A sound map is written as a level. -/
theorem Sound.toLevel_eq :
    editor.toLevel = .ok {
      direction := editor.spawn.heading.index
      position := editor.spawn.position
      map := editor.grid.toLevelRows
      medals := .unset } := by
  have made : Grid.ofRows editor.tiles = .ok editor.grid :=
    sound.rectangular.ofRows_rows sound.wide sound.tall
  simp only [toLevel, made, bind, Except.bind, pure, Except.pure]

/-- The level of a sound map is loaded with the tiles and the start of the map, unless there is no
lamp. -/
theorem Sound.load_toLevel {level : Level} (written : editor.toLevel = .ok level) :
    World.load level =
      if editor.grid.lampCount = 0 then .error .noLamps
      else .ok ⟨editor.grid, editor.grid, editor.spawn, editor.spawn⟩ := by
  obtain rfl := Except.ok.inj (sound.toLevel_eq.symm.trans written)
  have made := Grid.ofLevelRows_toLevelRows sound.rectangular sound.wide sound.tall sound.authored
  simp [World.load, made, Heading.ofIndex?_index, sound.spawn, bind, Except.bind, pure, Except.pure]

/-- A sound map can be published if it has a lamp. -/
theorem Sound.isPublishable_iff : editor.isPublishable = true ↔ editor.grid.lampCount ≠ 0 := by
  rw [Grid.lampCount, ← Nat.pos_iff_ne_zero, List.countP_pos_iff, isPublishable, List.any_eq_true]
  constructor
  · rintro ⟨tile, isTile, lamp⟩
    exact ⟨tile, isTile, (Bool.and_eq_true_iff.1 lamp).1⟩
  · rintro ⟨tile, isTile, lamp⟩
    have raised := one_le_iff_pos.1 (sound.authored tile isTile lamp).2
    exact ⟨tile, isTile, Bool.and_eq_true_iff.2 ⟨lamp, decide_eq_true raised⟩⟩

end Preservation

/-- Whatever is done with an editor, levels that are loaded being of fewer than `2 ^ 31` columns and
rows: the map is a rectangle that is not empty, its lamps are unlit and raised from the ground
plane, and the robot starts on it. It is written as a level, which cannot be loaded for no other
reason than that there is no lamp, and which loads exactly when the map can be published; then the
world has the tiles and the start of the map. -/
theorem obeyAll_new (viewport : Point) (commands : List Command)
    (small : ∀ level, .load level ∈ commands → level.Small) :
    let editor := (new viewport).obeyAll commands
    (editor.tiles ≠ [] ∧ 0 < editor.columns ∧ ∀ row ∈ editor.tiles, row.length = editor.columns) ∧
      (∀ tile ∈ editor.tiles.flatten,
        tile.isLamp = true → tile.isLit = false ∧ 1 ≤ tile.height) ∧
      (editor.tile? editor.spawn.position).isSome = true ∧
      ∃ level, editor.toLevel = .ok level ∧
        (editor.isPublishable = true ↔ ∃ world, World.load level = .ok world) ∧
        (∀ failure, World.load level = .error failure → failure = .noLamps) ∧
        ∀ world, World.load level = .ok world →
          world.grid.rows = editor.tiles ∧ world.grid.columns = editor.columns ∧
            (∀ cell, world.grid.tile? cell = editor.tile? cell) ∧
            world.spawn = editor.spawn ∧ world.pose = editor.spawn := by
  intro editor
  have sound : editor.Sound := (sound_new viewport).obeyAll small
  refine ⟨⟨?_, ?_, ?_⟩, sound.authored, ?_, _, sound.toLevel_eq, ?_, ?_, ?_⟩
  · exact List.ne_nil_of_length_pos (Nat.pos_of_ne_zero sound.tall)
  · exact Nat.pos_of_ne_zero sound.wide
  · exact sound.rectangular
  · obtain ⟨tile, isTile⟩ := sound.rectangular.tile?_of_contains sound.spawn
    rw [← sound.tile?_grid, isTile, Option.isSome_some]
  · rw [sound.isPublishable_iff, sound.load_toLevel sound.toLevel_eq]
    split
    next none => simp [none]
    next some => simp [some]
  · intro failure failed
    rw [sound.load_toLevel sound.toLevel_eq] at failed
    split at failed
    next => exact (Except.error.inj failed).symm
    next => simp at failed
  · intro world loaded
    rw [sound.load_toLevel sound.toLevel_eq] at loaded
    split at loaded
    next => simp at loaded
    next =>
      obtain rfl := Except.ok.inj loaded
      exact ⟨rfl, rfl, sound.tile?_grid, rfl, rfl⟩

/-- A map that is taken from a level, of which one of the two lamps is erased; another level, with
an unknown heading, is not accepted. -/
def sketch : List Command :=
  [.load LevelPack.corner, .load { LevelPack.firstSteps with direction := 4 },
    .choose .erase, .apply ⟨2, 0⟩, .apply ⟨3, 0⟩, .choose .spawn, .apply ⟨1, 1⟩]

/-- The map can be published with the lamp that is left. Its level is accepted and starts where the
editor does. -/
theorem obeyAll_new_sketch :
    (∀ level, .load level ∈ sketch → level.Small) ∧
      let editor := (new ⟨800, 600⟩).obeyAll sketch
      editor.isPublishable = true ∧ editor.spawn = ⟨⟨1, 1⟩, .northEast⟩ ∧
        ∃ level world, editor.toLevel = .ok level ∧ World.load level = .ok world ∧
          world.lampCount = 1 ∧ world.spawn = editor.spawn := by
  have small : ∀ level, .load level ∈ sketch → level.Small := by
    intro level loads
    have either : level = LevelPack.corner ∨
        level = { LevelPack.firstSteps with direction := 4 } := by
      simpa [sketch] using loads
    obtain rfl | rfl := either
    · exact ⟨by decide, by decide⟩
    · exact ⟨by decide, by decide⟩
  obtain ⟨_, _, _, level, written, loads, _, same⟩ := obeyAll_new ⟨800, 600⟩ sketch small
  have publishable : ((new ⟨800, 600⟩).obeyAll sketch).isPublishable = true := by decide
  obtain ⟨world, loaded⟩ := loads.1 publishable
  obtain ⟨rows, _, _, spawn, _⟩ := same world loaded
  refine ⟨small, publishable, by decide, level, world, written, loaded, ?_, spawn⟩
  rw [World.lampCount, Grid.lampCount, Grid.tiles, rows]
  decide

end Editor

end Lamplighter
