import Lamplighter.Proofs.Editor.Editing
import Lamplighter.Proofs.Scene.Painting

/-!
# Picking cells of a map

A map is painted cell by cell, and a point of the screen is looked up among the tops of the cells.
The two go different ways through the same order of cells: `Editor.Sound.order_eq` says what is
painted, `Editor.Sound.pick?_eq_some_iff` that the cell at a point is the last one whose top
contains it, and `Editor.Sound.click_changes` how little a click changes.
`Editor.pick?_agrees_with_render` puts them together for whatever has been done with an editor.
-/

namespace Lamplighter

/-! ## Searching a frame from behind -/

/-- The cell that an item shows, if it shows one. -/
def DrawItem.cell? : DrawItem → Option Cell
  | .cell shown => some shown
  | _ => none

theorem DrawItem.cell?_eq_some_iff {item : DrawItem} {cell : Cell} :
    item.cell? = some cell ↔ item = .cell cell := by
  cases item <;> simp [DrawItem.cell?]

/-- Searching the cells among some items from behind finds the last of those that are searched
for. -/
theorem DrawItem.find?_reverse_eq_some_iff {items : List DrawItem} {isMeant : Cell → Bool}
    {cell : Cell} :
    (items.filterMap DrawItem.cell?).reverse.find? isMeant = some cell ↔
      ∃ before after, items = before ++ .cell cell :: after ∧ isMeant cell = true ∧
        ∀ later, .cell later ∈ after → isMeant later = false := by
  rw [← List.filterMap_reverse, List.find?_filterMap, Option.bind_eq_some_iff]
  constructor
  · rintro ⟨item, found, isCell⟩
    obtain rfl := DrawItem.cell?_eq_some_iff.1 isCell
    obtain ⟨meant, behind, front, divided, others⟩ := List.find?_eq_some_iff_append.1 found
    refine ⟨front.reverse, behind.reverse, ?_, meant, ?_⟩
    · rw [← List.reverse_inj, divided]
      simp
    · intro later member
      simpa [DrawItem.cell?] using others _ (List.mem_reverse.1 member)
  · rintro ⟨before, after, rfl, meant, others⟩
    refine ⟨.cell cell, List.find?_eq_some_iff_append.2 ⟨meant, after.reverse, before.reverse,
      by simp, ?_⟩, rfl⟩
    intro item member
    cases shows : item.cell? with
    | none => rfl
    | some later =>
        obtain rfl := DrawItem.cell?_eq_some_iff.1 shows
        simp [others later (List.mem_reverse.1 member)]

namespace Editor

/-! ## What is painted -/

/-- The cells of the map in the order in which they are painted. -/
def paintOrder (editor : Editor) : List Cell := editor.painter.drawOrder editor.cells

section Frame

variable (editor : Editor) (hover : Option Cell)

/-- What is painted of a cell with a tile: the tile and, on its top, the light of the pointer. -/
def cellCommands (cell : Cell) (tile : Tile) : List DrawCommand :=
  editor.painter.tileCommands cell tile ++
    if hover = some cell then
      [.polygon (editor.painter.topFace cell (.ofNat tile.height.toNat)) .hover none]
    else
      []

/-- The mark above a tile. -/
def marker (cell : Cell) (tile : Tile) : DrawCommand :=
  let place := cell.toPoint
  .disc
    (editor.painter.screen (place.x + Painter.half)
      ((Binary32.ofNat tile.height.toNat).max 1 + markerLift) (place.y + Painter.half))
    markerRadius .spawnMarker

/-- What is painted of a cell, and the mark behind it if the robot starts there. -/
def cellSections (cell : Cell) : List Frame.Section :=
  match editor.tile? cell with
  | none => []
  | some tile =>
      ⟨.cell cell, editor.cellCommands hover cell tile⟩ ::
        if cell = editor.spawn.position then [⟨.spawnMarker, [editor.marker cell tile]⟩] else []

/-- Painting a cell adds its sections. -/
theorem renderCell_assembled (cell : Cell) (loose : List DrawCommand)
    (sections : List Frame.Section) :
    editor.renderCell editor.painter hover (.assembled loose sections) cell =
      .assembled loose (sections ++ editor.cellSections hover cell) := by
  unfold renderCell cellSections
  cases editor.tile? cell with
  | none => rw [List.append_nil]
  | some tile =>
      let started := (Frame.assembled loose sections).start (.cell cell)
      let tiled := Painter.paint started (editor.painter.tileCommands cell tile)
      let top := editor.painter.topFace cell (.ofNat tile.height.toNat)
      have lit : (if hover = some cell then tiled.polygon top .hover none else tiled) =
          .assembled loose (sections ++ [⟨.cell cell, editor.cellCommands hover cell tile⟩]) := by
        rw [← Frame.paint_start_assembled, cellCommands]
        split
        next =>
          rw [Painter.paint, List.foldl_append]
          rfl
        next => rw [List.append_nil]
      simp only
      rw [lit]
      split
      next =>
        have marked := Frame.paint_start_assembled loose
          (sections ++ [⟨.cell cell, editor.cellCommands hover cell tile⟩]) .spawnMarker
          [editor.marker cell tile]
        rw [List.append_assoc, List.singleton_append] at marked
        exact marked
      next => rfl

/-- A frame consists of the background and of what is painted of the cells, in their order. -/
theorem render_eq :
    editor.render hover =
      .assembled [] (⟨.background, [.clear .background]⟩ ::
        editor.paintOrder.flatMap (editor.cellSections hover)) := by
  rw [render, Frame.new_eq_assembled]
  exact Frame.foldl_assembled (fun cell _ => editor.renderCell_assembled hover cell []) _

/-- The last of what is painted of a cell is a polygon around the top of its tile, whether the
pointer is over it or not. -/
theorem getLast?_cellCommands (cell : Cell) (tile : Tile) :
    ∃ fill stroke, (editor.cellCommands hover cell tile).getLast? =
      some (.polygon (editor.painter.topFace cell (.ofNat tile.height.toNat)) fill stroke) := by
  rw [cellCommands]
  split
  next => exact ⟨_, _, List.getLast?_concat⟩
  next =>
    obtain ⟨fill, last⟩ := editor.painter.getLast?_tileCommands cell tile
    exact ⟨fill, _, by rw [List.append_nil, last]⟩

/-- The last command of an item that is a cell is a polygon around the top of the cell. -/
theorem getLast?_commandsFor_render {index : Nat} {cell : Cell}
    (isCell : (editor.render hover).order[index]? = some (.cell cell)) :
    ∃ tile fill stroke, editor.tile? cell = some tile ∧
      ((editor.render hover).commandsFor index).getLast? =
        some (.polygon (editor.painter.topFace cell (.ofNat tile.height.toNat)) fill stroke) := by
  rw [render_eq] at isCell ⊢
  obtain ⟨current, member, item, commands⟩ := Frame.exists_section_of_order isCell
  rw [commands]
  obtain rfl | behind := List.mem_cons.1 member
  · exact absurd item DrawItem.noConfusion
  · obtain ⟨source, _, inSource⟩ := List.mem_flatMap.1 behind
    unfold cellSections at inSource
    split at inSource
    next => exact absurd inSource List.not_mem_nil
    next tile isTile =>
      obtain rfl | isMarker := List.mem_cons.1 inSource
      · obtain rfl : source = cell := DrawItem.cell.inj item
        obtain ⟨fill, stroke, last⟩ := editor.getLast?_cellCommands hover source tile
        exact ⟨tile, fill, stroke, isTile, last⟩
      · split at isMarker
        next =>
          obtain rfl := List.mem_singleton.1 isMarker
          exact absurd item DrawItem.noConfusion
        next => exact absurd isMarker List.not_mem_nil

end Frame

section Sound

variable {editor : Editor} (sound : editor.Sound)
include sound

/-- The cells that have a tile are those of the grid that the map shows. -/
theorem Sound.isSome_tile?_iff (cell : Cell) :
    (editor.tile? cell).isSome = true ↔ editor.grid.contains cell = true := by
  rw [← sound.tile?_grid, Option.isSome_iff_exists]
  exact ⟨fun ⟨_, isTile⟩ => Grid.contains_of_tile? isTile, sound.rectangular.tile?_of_contains⟩

/-- Every cell with a tile is painted, and no other one. -/
theorem Sound.mem_paintOrder_iff (cell : Cell) :
    cell ∈ editor.paintOrder ↔ (editor.tile? cell).isSome = true := by
  rw [sound.isSome_tile?_iff, ← sound.rectangular.mem_cells_iff sound.small]
  exact (editor.painter.drawOrder_perm editor.cells).mem_iff

/-- No cell is painted twice. -/
theorem Sound.nodup_paintOrder : editor.paintOrder.Nodup :=
  (editor.painter.drawOrder_perm editor.cells).nodup_iff.2
    (sound.rectangular.nodup_cells sound.small)

/-- As many cells are painted as the map has places. -/
theorem Sound.length_paintOrder :
    editor.paintOrder.length = editor.columns * editor.rowCount := by
  rw [paintOrder, (editor.painter.drawOrder_perm editor.cells).length_eq]
  exact sound.rectangular.length_cells

/-- The background is painted first and then the cells, with the mark right behind the cell on which
the robot starts. -/
theorem Sound.order_eq (hover : Option Cell) :
    ∃ before after, editor.paintOrder = before ++ editor.spawn.position :: after ∧
      (editor.render hover).order =
        .background :: (before.map .cell ++
          .cell editor.spawn.position :: .spawnMarker :: after.map .cell) := by
  have onMap : editor.spawn.position ∈ editor.paintOrder :=
    (sound.mem_paintOrder_iff _).2 ((sound.isSome_tile?_iff _).2 sound.spawn)
  obtain ⟨before, after, divided⟩ := List.append_of_mem onMap
  refine ⟨before, after, divided, ?_⟩
  rw [render_eq, Frame.order_assembled, List.map_cons]
  rw [Frame.map_item_flatMap divided sound.nodup_paintOrder fun cell member => ?_]
  obtain ⟨tile, isTile⟩ := Option.isSome_iff_exists.1 ((sound.mem_paintOrder_iff cell).1 member)
  simp only [cellSections, isTile, List.map_cons]
  split <;> rfl

/-- The cells among the items of a frame are those that are painted, in their order. -/
theorem Sound.filterMap_order (hover : Option Cell) :
    (editor.render hover).order.filterMap DrawItem.cell? = editor.paintOrder := by
  obtain ⟨before, after, divided, order⟩ := sound.order_eq hover
  rw [order, divided]
  simp [List.filterMap_cons, List.filterMap_map, Function.comp_def, DrawItem.cell?]

end Sound

/-! ## What is picked -/

/-- A point of the screen is in the top of a cell of the map, at the height of its tile. -/
def TopContains (editor : Editor) (screen : Point) (cell : Cell) : Prop :=
  ∃ tile, editor.tile? cell = some tile ∧
    screen.isInside (editor.painter.topFace cell (.ofNat tile.height.toNat)) = true

theorem isOnTop_iff {editor : Editor} {screen : Point} {cell : Cell} :
    editor.isOnTop editor.painter screen cell = true ↔ editor.TopContains screen cell := by
  unfold isOnTop TopContains
  cases editor.tile? cell <;> simp

section Picking

variable {editor : Editor} (sound : editor.Sound) (screen : Point)
include sound

/-- The cell that is picked is the last one in the order of a frame whose top contains the point. -/
theorem Sound.pick?_eq_some_iff (hover : Option Cell) (cell : Cell) :
    editor.pick? screen = some cell ↔
      ∃ before after, (editor.render hover).order = before ++ .cell cell :: after ∧
        editor.TopContains screen cell ∧
        ∀ later, .cell later ∈ after → ¬ editor.TopContains screen later := by
  simp only [← isOnTop_iff, Bool.not_eq_true]
  rw [← DrawItem.find?_reverse_eq_some_iff, sound.filterMap_order]
  rfl

/-- No cell is picked only where no top contains the point. -/
theorem Sound.pick?_eq_none_iff :
    editor.pick? screen = none ↔ ∀ cell, ¬ editor.TopContains screen cell := by
  rw [pick?, List.find?_eq_none]
  constructor
  · rintro none cell ⟨tile, isTile, inside⟩
    have painted : cell ∈ editor.paintOrder := by
      rw [sound.mem_paintOrder_iff, isTile, Option.isSome_some]
    exact none cell (List.mem_reverse.2 painted) (isOnTop_iff.2 ⟨tile, isTile, inside⟩)
  · intro none cell _ onTop
    exact none cell (isOnTop_iff.1 onTop)

end Picking

/-! ## What a click changes -/

/-- Between two editors at most the tile of one cell has changed: the rows are as long as before,
all other cells have their tiles, and everything else is the same. -/
structure ChangesOnly (before : Editor) (cell : Cell) (after : Editor) : Prop where
  rest : after = { before with tiles := after.tiles }
  sides : after.tiles.map List.length = before.tiles.map List.length
  others : ∀ other, other ≠ cell → after.tile? other = before.tile? other

/-- Changing one item of a row leaves all rows as long as they are. -/
theorem map_length_modify {α : Type} (rows : List (List α)) (row column : Nat) (change : α → α) :
    (rows.modify row fun items => items.modify column change).map List.length =
      rows.map List.length := by
  refine List.ext_getElem? fun index => ?_
  rw [List.getElem?_map, List.getElem?_modify, List.getElem?_map, Option.map_eq_map,
    Option.map_map]
  congr 1
  funext items
  rw [Function.comp_apply]
  split
  next => rw [List.length_modify]
  next => rfl

/-- Changing the tile of a cell changes that of no other. -/
theorem tile?_update_of_ne (editor : Editor) {cell other : Cell} (different : other ≠ cell)
    (change : Tile → Tile) : (editor.update cell change).tile? other = editor.tile? other := by
  unfold update tile?
  split
  next otherColumn otherRow otherPlace =>
    split
    next column row place =>
      by_cases sameRow : row = otherRow
      · subst sameRow
        have elsewhere : column ≠ otherColumn := by
          rintro rfl
          exact different <| (Cell.ofIndices_of_indices? otherPlace).symm.trans
            (Cell.ofIndices_of_indices? place)
        rw [List.getElem?_modify_eq]
        cases editor.tiles[row]? with
        | none => rfl
        | some tiles => exact List.getElem?_modify_ne _ _ elsewhere
      · rw [List.getElem?_modify_ne _ _ sameRow]
    next => rfl
  next => rfl

/-- Changing the tile of a cell changes nothing else. -/
theorem changesOnly_update (editor : Editor) (cell : Cell) (change : Tile → Tile) :
    editor.ChangesOnly cell (editor.update cell change) := by
  refine ⟨?_, ?_, fun other different => editor.tile?_update_of_ne different change⟩
  · unfold update
    split <;> rfl
  · unfold update
    split
    next => exact map_length_modify _ _ _ _
    next => rfl

/-- A tool other than that of the start changes the tile of the cell, if anything. -/
theorem changesOnly_apply {editor : Editor} (cell : Cell) (noSpawn : editor.tool ≠ .spawn) :
    editor.ChangesOnly cell (editor.apply cell) := by
  unfold apply
  cases editor.tile? cell with
  | none => exact ⟨rfl, rfl, fun _ _ => rfl⟩
  | some tile =>
      cases tool : editor.tool with
      | block => exact editor.changesOnly_update cell _
      | lamp => exact editor.changesOnly_update cell _
      | erase => exact editor.changesOnly_update cell _
      | spawn => exact absurd tool noSpawn

/-- What becomes of an editor in which a cell is clicked on, or none. -/
def Clicked (editor : Editor) : Option Cell → Editor → Prop
  | none, after => after = editor
  | some cell, after =>
      if editor.tool = .spawn then after = { editor with spawn := ⟨cell, editor.spawnHeading⟩ }
      else editor.ChangesOnly cell after

/-- A click changes nothing where no cell is picked. Otherwise it only moves the start to the picked
cell, with the tool for that, or changes no other tile than that of the picked cell. -/
theorem Sound.click_changes {editor : Editor} (sound : editor.Sound) (screen : Point) :
    editor.Clicked (editor.pick? screen) (editor.click screen) := by
  unfold Editor.click
  cases picked : editor.pick? screen with
  | none => rfl
  | some cell =>
      obtain ⟨_, _, _, ⟨tile, isTile, _⟩, _⟩ := (sound.pick?_eq_some_iff screen none cell).1 picked
      rw [Clicked]
      split
      next isSpawn => simp only [Editor.apply, isTile, isSpawn]
      next noSpawn => exact changesOnly_apply cell noSpawn

/-- Whatever is done with an editor, levels that are loaded being of fewer than `2 ^ 31` columns and
rows, however the map is turned and large the canvas, and wherever the pointer is. A frame starts
with the background; then come all cells of the map, each once, with the only mark right behind the
cell on which the robot starts, and the last command of each cell is a polygon around the top of its
tile. The cell at a point is the last one in the order of the frame whose top contains the point,
and there is none just where no top does. A click changes this cell at most, or only moves the start
to it. -/
theorem pick?_agrees_with_render (viewport : Point) (commands : List Command)
    (small : ∀ level, .load level ∈ commands → level.Small) (hover : Option Cell)
    (screen : Point) :
    let editor := (new viewport).obeyAll commands
    let frame := editor.render hover
    (∃ before after,
        frame.order = .background :: (before.map .cell ++
          .cell editor.spawn.position :: .spawnMarker :: after.map .cell) ∧
        (before ++ editor.spawn.position :: after).length = editor.columns * editor.rowCount ∧
        ∀ cell, cell ∈ before ++ editor.spawn.position :: after ↔
          (editor.tile? cell).isSome = true) ∧
      frame.order.Nodup ∧
      (∀ index cell, frame.order[index]? = some (.cell cell) →
        ∃ tile fill stroke, editor.tile? cell = some tile ∧
          (frame.commandsFor index).getLast? =
            some (.polygon (editor.painter.topFace cell (.ofNat tile.height.toNat)) fill stroke)) ∧
      (∀ cell, editor.pick? screen = some cell ↔
        ∃ before after, frame.order = before ++ .cell cell :: after ∧
          editor.TopContains screen cell ∧
          ∀ later, .cell later ∈ after → ¬ editor.TopContains screen later) ∧
      (editor.pick? screen = none ↔ ∀ cell, ¬ editor.TopContains screen cell) ∧
      editor.Clicked (editor.pick? screen) (editor.click screen) := by
  intro editor frame
  have sound : editor.Sound := (sound_new viewport).obeyAll small
  obtain ⟨before, after, divided, order⟩ := sound.order_eq hover
  refine ⟨⟨before, after, order, ?_, ?_⟩, ?_, fun index cell => ?_,
    sound.pick?_eq_some_iff screen hover, sound.pick?_eq_none_iff screen,
    sound.click_changes screen⟩
  · rw [← divided, sound.length_paintOrder]
  · rw [← divided]
    exact sound.mem_paintOrder_iff
  · rw [show frame.order = _ from order]
    exact Frame.nodup_items_of_divided divided sound.nodup_paintOrder (by simp)
  · exact editor.getLast?_commandsFor_render hover

/-- The long road from its far end, with a tile in the middle that is raised over its neighbour. -/
def avenue : List Command :=
  [.load LevelPack.longRoad, .view (.turned 2) ⟨800, 600⟩, .apply ⟨3, 0⟩]

/-- The point is in the tops of two cells of the avenue. The raised one is picked; the other one is
not painted after it, and keeps its tile in a click. -/
theorem pick?_agrees_with_render_avenue :
    (∀ level, .load level ∈ avenue → level.Small) ∧
      let editor := (new ⟨640, 480⟩).obeyAll avenue
      let frame := editor.render (some ⟨5, 0⟩)
      editor.TopContains ⟨400, 300⟩ ⟨2, 0⟩ ∧ editor.pick? ⟨400, 300⟩ = some ⟨3, 0⟩ ∧
        (∃ before after, frame.order = before ++ .cell ⟨3, 0⟩ :: after ∧ .cell ⟨2, 0⟩ ∉ after) ∧
        frame.order.Nodup ∧ frame.order.length = 8 ∧
        (editor.click ⟨400, 300⟩).tile? ⟨2, 0⟩ = editor.tile? ⟨2, 0⟩ := by
  have small : ∀ level, .load level ∈ avenue → level.Small := by
    intro level loads
    have only : level = LevelPack.longRoad := by simpa [avenue] using loads
    rw [only]
    exact ⟨by decide, by decide⟩
  let editor := (new ⟨640, 480⟩).obeyAll avenue
  -- Row by row the cells are already in the order of painting.
  have sorted : editor.painter.drawOrder editor.cells = editor.cells :=
    Painter.drawOrder_of_pairwise (by decide +kernel)
  have picked : editor.pick? ⟨400, 300⟩ = some ⟨3, 0⟩ := by
    rw [pick?, sorted]
    decide +kernel
  have below : editor.TopContains ⟨400, 300⟩ ⟨2, 0⟩ := isOnTop_iff.1 (by decide +kernel)
  obtain ⟨⟨front, back, order, count, _⟩, once, _, last, _, clicked⟩ :=
    pick?_agrees_with_render ⟨640, 480⟩ avenue small (some ⟨5, 0⟩) ⟨400, 300⟩
  obtain ⟨before, after, divided, _, later⟩ := (last ⟨3, 0⟩).1 picked
  refine ⟨small, below, picked, ⟨before, after, divided, fun behind => later _ behind below⟩, once,
    ?_, ?_⟩
  · have six : front.length + (back.length + 1) = 6 := by
      rw [← List.length_cons, ← List.length_append, count]
      rfl
    rw [order]
    simp only [List.length_cons, List.length_append, List.length_map]
    omega
  · have block : editor.tool ≠ .spawn := by decide
    rw [show editor.pick? ⟨400, 300⟩ = _ from picked, Clicked, if_neg block] at clicked
    exact clicked.others ⟨2, 0⟩ (by decide)

end Editor

end Lamplighter
