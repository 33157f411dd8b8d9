import Lamplighter.Proofs.Grid.Cells
import Lamplighter.Proofs.Scene.Sections
import Lamplighter.Proofs.World.Play

/-!
# What is painted of a world

A frame consists of the background, of every cell of the map, and of the robot right behind one of
them. `Painter.order_render` says so of every world that can be reached and for whatever the engine
may be showing; `Painter.robotAnchor_mem` is why the robot is never left out, and
`Painter.paintsTile` what is painted of each cell.
-/

namespace Lamplighter.Painter

/-! ## The order of cells -/

/-- Putting cells in order neither adds nor removes any. -/
theorem drawOrder_perm (painter : Painter) (cells : List Cell) :
    (painter.drawOrder cells).Perm cells := by
  have sorted := (List.mergeSort_perm (cells.map fun cell => ((painter.depthKey cell).rank, cell))
    fun first second => decide (first.1 ≤ second.1)).map (·.2)
  simpa [drawOrder, List.map_map, Function.comp_def] using sorted

/-- Cells that stand from the farthest to the nearest stay as they are. -/
theorem drawOrder_of_pairwise {painter : Painter} {cells : List Cell}
    (sorted : cells.Pairwise fun first second =>
      (painter.depthKey first).rank ≤ (painter.depthKey second).rank) :
    painter.drawOrder cells = cells := by
  rw [drawOrder, List.mergeSort_of_pairwise, List.map_map]
  · exact List.map_id _
  · exact List.pairwise_map.2 (sorted.imp decide_eq_true)

/-- The robot is painted behind a cell that is painted, wherever the animation says that it comes
from. -/
theorem robotAnchor_mem {pose : Pose} {order : List Cell} (snapshot : Engine.Snapshot)
    (inOrder : pose.position ∈ order) : robotAnchor pose snapshot order ∈ order := by
  unfold robotAnchor
  split
  next => exact inOrder
  next animation _ =>
    refine iteInduction (motive := (· ∈ order)) (fun _ => inOrder) fun _ => ?_
    refine iteInduction (motive := (· ∈ order)) (fun leaves => ?_) fun _ => inOrder
    -- The cell that is left has a place in the order, or it would not count as painted later.
    have later := (Bool.and_eq_true_iff.1 leaves).1
    split at later
    next arrival departure _ found =>
      rw [← List.isSome_idxOf?, found, Option.isSome_some]
    next => exact absurd later Bool.false_ne_true

/-! ## Tiles -/

/-- The corners of a cell at a height, in their order around it. -/
def corners (painter : Painter) (cell : Cell) (height : Binary32) : List Point :=
  let column := Binary32.ofInt cell.x.toInt
  let row := Binary32.ofInt cell.y.toInt
  [painter.screen column height row, painter.screen (column + 1) height row,
    painter.screen (column + 1) height (row + 1), painter.screen column height (row + 1)]

/-- A step out of a cell leads over one of its edges. The ends of the edge are given from the first
corner of the cell. -/
inductive LeadsOver : Cell → Point → Point → Prop where
  | left : LeadsOver ⟨-1, 0⟩ ⟨0, 0⟩ ⟨0, 1⟩
  | right : LeadsOver ⟨1, 0⟩ ⟨1, 0⟩ ⟨1, 1⟩
  | below : LeadsOver ⟨0, -1⟩ ⟨0, 0⟩ ⟨1, 0⟩
  | above : LeadsOver ⟨0, 1⟩ ⟨0, 1⟩ ⟨1, 1⟩

/-- The side of a tile between two places on its ground and those above them. -/
def wall (painter : Painter) (height : Binary32) (first second : Point) : List Point :=
  [painter.screen first.x 0 first.y, painter.screen second.x 0 second.y,
    painter.screen second.x height second.y, painter.screen first.x height first.y]

/-- A command paints the side of a tile that comes to stand in a direction when the camera has turned
the map. -/
inductive PaintsSide (painter : Painter) (cell : Cell) (height : Binary32) (direction : Cell)
    (colour : Colour) : DrawCommand → Prop where
  | wall {outwards : Cell} {first second : Point} (edge : LeadsOver outwards first second)
      (turned : outwards.rotateQuarter painter.camera.rotation = direction) :
      PaintsSide painter cell height direction colour
        (.polygon (painter.wall height (cell.toPoint + first) (cell.toPoint + second)) colour
          painter.stroke)

/-- The colour of the top of a tile tells what the tile is, and of a lamp whether it is lit. -/
inductive TopColoured : TileKind → Colour → Prop where
  | ground : TopColoured .ground .tileTop
  | dark : TopColoured (.lamp false) .lampOff
  | lit : TopColoured (.lamp true) .lampOn

/-- Commands paint a tile: the ground under it and, where it is raised, the two sides that face the
viewer, along the columns and along the rows, and the top. -/
inductive PaintsTile (painter : Painter) (cell : Cell) (tile : Tile) : List DrawCommand → Prop where
  | flat (level : tile.height = 0) :
      PaintsTile painter cell tile [.polygon (painter.corners cell 0) .ground painter.stroke]
  | raised (raised : tile.height ≠ 0) {front side : DrawCommand} {faces : List DrawCommand}
      {top : Colour}
      (isFront : painter.PaintsSide cell (.ofNat tile.height.toNat) ⟨0, -1⟩ .tileFront front)
      (isSide : painter.PaintsSide cell (.ofNat tile.height.toNat) ⟨-1, 0⟩ .tileSide side)
      (each : faces.Perm [front, side]) (isTop : TopColoured tile.kind top) :
      PaintsTile painter cell tile
        (.polygon (painter.corners cell 0) .ground painter.stroke :: faces ++
          [.polygon (painter.corners cell (.ofNat tile.height.toNat)) top painter.stroke])

/-- The top of a tile has the colour of its kind, and no other. -/
theorem topColoured_iff {kind : TileKind} {colour : Colour} :
    TopColoured kind colour ↔ topColour kind = colour := by
  constructor
  · intro coloured
    cases coloured <;> rfl
  · rintro rfl
    cases kind with
    | ground => exact .ground
    | lamp lit =>
        cases lit with
        | false => exact .dark
        | true => exact .lit

/-- Tiles of different kinds have tops of different colours. -/
theorem topColour_injective : Function.Injective topColour := by
  have apart : [Colour.tileTop, .lampOff, .lampOn].Nodup := by decide
  intro kind other same
  rcases kind with _ | _ | _ <;> rcases other with _ | _ | _ <;> simp_all [topColour]

/-- A side of a tile belongs to the edge over which its outward step leads. -/
theorem leadsOver_of_mem {side : Side} (isSide : side ∈ sides) :
    LeadsOver side.outwards side.first side.second := by
  simp only [sides, List.mem_cons, List.not_mem_nil, or_false] at isSide
  rcases isSide with rfl | rfl | rfl | rfl
  · exact .left
  · exact .right
  · exact .below
  · exact .above

/-- The sides that can be seen when the map has been turned, with their colours. -/
def seenSides (turns : UInt8) : List (Side × Colour) :=
  sides.filterMap fun side =>
    (sideColour? (side.outwards.rotateQuarter turns)).map fun colour => (side, colour)

/-- However the map has been turned, two sides can be seen: one that has come to stand along the
columns, and one along the rows. -/
theorem seenSides_perm (turns : UInt8) :
    ∃ front ∈ sides, ∃ side ∈ sides, front.outwards.rotateQuarter turns = ⟨0, -1⟩ ∧
      side.outwards.rotateQuarter turns = ⟨-1, 0⟩ ∧
      (seenSides turns).Perm [(front, .tileFront), (side, .tileSide)] := by
  have quarter : turns.toNat % 4 < 4 := Nat.mod_lt _ (by decide)
  unfold seenSides Cell.rotateQuarter
  generalize turns.toNat % 4 = quarters at quarter ⊢
  match quarters with
  | 0 => exact ⟨_, .tail _ (.tail _ (.head _)), _, .head _, rfl, rfl, .swap _ _ _⟩
  | 1 => exact ⟨_, .tail _ (.head _), _, .tail _ (.tail _ (.head _)), rfl, rfl, .refl _⟩
  | 2 =>
      exact ⟨_, .tail _ (.tail _ (.tail _ (.head _))), _, .tail _ (.head _), rfl, rfl,
        .swap _ _ _⟩
  | 3 => exact ⟨_, .head _, _, .tail _ (.tail _ (.tail _ (.head _))), rfl, rfl, .refl _⟩

/-- The sides of a tile that are painted are those that can be seen. -/
theorem filterMap_sideCommand? (painter : Painter) (cell : Cell) (height : Binary32) :
    sides.filterMap (painter.sideCommand? cell height) =
      (seenSides painter.camera.rotation).map fun (side, colour) =>
        .polygon (painter.wall height (cell.toPoint + side.first) (cell.toPoint + side.second))
          colour painter.stroke := by
  rw [seenSides, List.map_filterMap]
  apply List.filterMap_congr
  intro side _
  rw [Option.map_map]
  rfl

/-- The commands of a tile paint it. -/
theorem paintsTile (painter : Painter) (cell : Cell) (tile : Tile) :
    painter.PaintsTile cell tile (painter.tileCommands cell tile) := by
  by_cases level : tile.height = 0
  · rw [tileCommands, if_pos level]
    exact .flat level
  · simp only [tileCommands, if_neg level, filterMap_sideCommand?]
    obtain ⟨front, frontIsSide, side, sideIsSide, ahead, beside, seen⟩ :=
      seenSides_perm painter.camera.rotation
    exact .raised level (.wall (leadsOver_of_mem frontIsSide) ahead)
      (.wall (leadsOver_of_mem sideIsSide) beside) (seen.map _) (topColoured_iff.2 rfl)

/-- The last of what is painted of a tile is its top, at the height of the tile. -/
theorem getLast?_tileCommands (painter : Painter) (cell : Cell) (tile : Tile) :
    ∃ fill, (painter.tileCommands cell tile).getLast? =
      some (.polygon (painter.topFace cell (.ofNat tile.height.toNat)) fill painter.stroke) := by
  by_cases level : tile.height = 0
  · refine ⟨.ground, ?_⟩
    rw [tileCommands, if_pos level, level]
    rfl
  · refine ⟨topColour tile.kind, ?_⟩
    rw [tileCommands, if_neg level, List.getLast?_concat]

/-! ## The robot -/

/-- The command that paints a disc above a place. Its radius is given in tiles. -/
def discAbove (painter : Painter) (place : WorldPoint) (lift radius : Binary32) (colour : Colour) :
    DrawCommand :=
  .disc (painter.screen place.x (place.y + lift) place.z) (radius * (edgeLength * isoX)) colour

/-- Commands paint the robot where it is seen: its body, its smaller head above that and, if it can
be seen, its eye. Body and head have the colour of the robot unless it lights a lamp. -/
inductive PaintsRobot (painter : Painter) (world : World) (snapshot : Engine.Snapshot) :
    List DrawCommand → Prop where
  | discs {place : WorldPoint} {colour : Colour} {eye : List DrawCommand}
      (isSeen : place = painter.robotPosition world snapshot)
      (own : snapshot.animation.map Animation.movement ≠ some .light → colour = .robotBody)
      (looks : eye = [] ∨ ∃ centre,
        eye = [.disc centre (.ofFraction false 5 100 * (edgeLength * isoX)) .robotEye]) :
      PaintsRobot painter world snapshot
        (painter.discAbove place (.ofFraction false 9 10) (.ofFraction false 22 100) colour ::
          painter.discAbove place (.ofFraction false 18 10) (.ofFraction false 15 100) colour ::
            eye)

/-- The commands of the robot paint it. -/
theorem paintsRobot (painter : Painter) (world : World) (snapshot : Engine.Snapshot) :
    painter.PaintsRobot world snapshot (painter.robotCommands world snapshot) := by
  refine .discs rfl (fun lightless => ?_) ?_
  · unfold robotColour
    split
    next lights => exact absurd lights lightless
    next => rfl
  · split
    · exact .inr ⟨_, rfl⟩
    · exact .inl rfl

/-! ## The frame -/

section Frame

variable (painter : Painter) (world : World) (snapshot : Engine.Snapshot)

/-- What is painted of a cell, the robot behind it if this is the anchor. -/
def cellSections (anchor cell : Cell) : List Frame.Section :=
  match world.grid.tile? cell with
  | none => []
  | some tile =>
      ⟨.cell cell, painter.tileCommands cell tile⟩ ::
        if cell = anchor then [⟨.robot, painter.robotCommands world snapshot⟩] else []

/-- Painting a cell adds its sections. -/
theorem renderCell_assembled (anchor cell : Cell) (loose : List DrawCommand)
    (sections : List Frame.Section) :
    painter.renderCell world snapshot anchor (.assembled loose sections) cell =
      .assembled loose (sections ++ painter.cellSections world snapshot anchor cell) := by
  unfold renderCell cellSections
  cases world.grid.tile? cell with
  | none => rw [List.append_nil]
  | some tile =>
      simp only [Frame.paint_start_assembled]
      split
      next => rw [List.append_assoc, List.singleton_append]
      next => rfl

/-- A frame consists of the background and of what is painted of the cells, in their order. -/
theorem render_eq :
    painter.render world snapshot =
      let order := painter.drawOrder (world.grid.cells.map (·.1))
      .assembled [] (⟨.background, [.clear .background]⟩ ::
        order.flatMap
          (painter.cellSections world snapshot (robotAnchor world.pose snapshot order))) := by
  rw [render, Frame.new_eq_assembled]
  exact Frame.foldl_assembled
    (fun cell _ => painter.renderCell_assembled world snapshot _ cell []) _

variable {painter world snapshot}

/-- The items of cells of the map, each listed once: the robot follows the anchor. -/
theorem map_item_of_anchor {anchor : Cell} {cells before after : List Cell}
    (divided : cells = before ++ anchor :: after)
    (onMap : ∀ cell ∈ cells, ∃ tile, world.grid.tile? cell = some tile) (once : cells.Nodup) :
    (cells.flatMap (painter.cellSections world snapshot anchor)).map Frame.Section.item =
      before.map .cell ++ .cell anchor :: .robot :: after.map .cell := by
  refine Frame.map_item_flatMap divided once fun cell member => ?_
  obtain ⟨tile, isTile⟩ := onMap cell member
  simp only [cellSections, isTile, List.map_cons]
  split <;> rfl

/-- The commands behind the item of a cell paint its tile. -/
theorem paintsTile_of_mem {anchor : Cell} {cells : List Cell} {painted : Frame.Section}
    {cell : Cell}
    (member : painted ∈ cells.flatMap (painter.cellSections world snapshot anchor))
    (isCell : painted.item = .cell cell) :
    ∃ tile, world.grid.tile? cell = some tile ∧ painter.PaintsTile cell tile painted.commands := by
  obtain ⟨source, _, inSource⟩ := List.mem_flatMap.1 member
  unfold cellSections at inSource
  split at inSource
  next => simp at inSource
  next tile isTile =>
    obtain rfl | isRobot := List.mem_cons.1 inSource
    · obtain rfl : source = cell := DrawItem.cell.inj isCell
      exact ⟨tile, isTile, painter.paintsTile source tile⟩
    · split at isRobot
      next =>
        obtain rfl := List.mem_singleton.1 isRobot
        simp at isCell
      next => simp at isRobot

/-- The commands behind the item of the robot paint it. -/
theorem paintsRobot_of_mem {anchor : Cell} {cells : List Cell} {painted : Frame.Section}
    (member : painted ∈ cells.flatMap (painter.cellSections world snapshot anchor))
    (isRobot : painted.item = .robot) : painter.PaintsRobot world snapshot painted.commands := by
  obtain ⟨source, _, inSource⟩ := List.mem_flatMap.1 member
  unfold cellSections at inSource
  split at inSource
  next => simp at inSource
  next tile isTile =>
    obtain rfl | behind := List.mem_cons.1 inSource
    · simp at isRobot
    · split at behind
      next =>
        obtain rfl := List.mem_singleton.1 behind
        exact painter.paintsRobot world snapshot
      next => simp at behind

/-- In a frame, the commands of a cell paint its tile. -/
theorem paintsTile_render {index : Nat} {cell : Cell}
    (found : (painter.render world snapshot).order[index]? = some (.cell cell)) :
    ∃ tile, world.grid.tile? cell = some tile ∧
      painter.PaintsTile cell tile ((painter.render world snapshot).commandsFor index) := by
  rw [render_eq] at found ⊢
  obtain ⟨current, member, isCell, commands⟩ := Frame.exists_section_of_order found
  rw [commands]
  obtain rfl | behind := List.mem_cons.1 member
  · simp at isCell
  · exact paintsTile_of_mem behind isCell

/-- In a frame, the commands of the robot paint it. -/
theorem paintsRobot_render {index : Nat}
    (found : (painter.render world snapshot).order[index]? = some .robot) :
    painter.PaintsRobot world snapshot ((painter.render world snapshot).commandsFor index) := by
  rw [render_eq] at found ⊢
  obtain ⟨current, member, isRobot, commands⟩ := Frame.exists_section_of_order found
  rw [commands]
  obtain rfl | behind := List.mem_cons.1 member
  · simp at isRobot
  · exact paintsRobot_of_mem behind isRobot

end Frame

/-- With the background and the robot, cells that are listed once make items that are. -/
theorem nodup_items {anchor : Cell} {cells before after : List Cell}
    (divided : cells = before ++ anchor :: after) (once : cells.Nodup) :
    (DrawItem.background ::
      (before.map .cell ++ .cell anchor :: .robot :: after.map .cell)).Nodup :=
  Frame.nodup_items_of_divided divided once (by simp)

/-- On a level that loads, with fewer than `2 ^ 31` columns and rows, whatever is done, whoever
paints and whatever is being shown: the frame starts with the background, then come all cells of the
map in their order, each once, with the robot right behind the anchor; and the commands of each cell
paint its tile, those of the robot the robot. The tops of tiles of different kinds differ. -/
theorem order_render {level : Level} {world : World} (loaded : World.load level = .ok world)
    (small : level.Small) (commands : List World.Command) (painter : Painter)
    (snapshot : Engine.Snapshot) :
    let current := world.obeyAll commands
    let cells := painter.drawOrder (current.grid.cells.map (·.1))
    let anchor := robotAnchor current.pose snapshot cells
    let frame := painter.render current snapshot
    (cells.Nodup ∧ cells.length = current.grid.columns * current.grid.rowCount ∧
        ∀ cell, cell ∈ cells ↔ current.grid.contains cell = true) ∧
      (∃ before after, cells = before ++ anchor :: after ∧
        frame.order =
          .background :: (before.map .cell ++ .cell anchor :: .robot :: after.map .cell)) ∧
      frame.order.Nodup ∧
      (∀ index cell, frame.order[index]? = some (.cell cell) →
        ∃ tile, current.grid.tile? cell = some tile ∧
          painter.PaintsTile cell tile (frame.commandsFor index)) ∧
      (∀ index, frame.order[index]? = some .robot →
        painter.PaintsRobot current snapshot (frame.commandsFor index)) ∧
      ∀ kind other colour, TopColoured kind colour → TopColoured other colour → kind = other := by
  intro current cells anchor frame
  have isFresh := World.fresh_of_load loaded
  have played : world.PlayedFrom current := isFresh.playedFrom.obeyAll isFresh commands
  have rectangular := played.grid.rectangular isFresh.rectangular
  have smallGrid := played.grid.small (World.small_of_load loaded small)
  have sorted : cells.Perm (current.grid.cells.map (·.1)) := painter.drawOrder_perm _
  have once : cells.Nodup := sorted.nodup_iff.2 (rectangular.nodup_cells smallGrid)
  have isCell : ∀ cell, cell ∈ cells ↔ current.grid.contains cell = true := by
    intro cell
    rw [sorted.mem_iff, rectangular.mem_cells_iff smallGrid]
  have inOrder : anchor ∈ cells := robotAnchor_mem snapshot ((isCell _).2 played.inside)
  obtain ⟨before, after, divided⟩ := List.append_of_mem inOrder
  have onMap : ∀ cell ∈ cells, ∃ tile, current.grid.tile? cell = some tile :=
    fun cell member => rectangular.tile?_of_contains ((isCell cell).1 member)
  have painted : frame = .assembled [] (⟨.background, [.clear .background]⟩ ::
      cells.flatMap (painter.cellSections current snapshot anchor)) :=
    painter.render_eq current snapshot
  have order : frame.order =
      .background :: (before.map .cell ++ .cell anchor :: .robot :: after.map .cell) := by
    rw [painted, Frame.order_assembled, List.map_cons, map_item_of_anchor divided onMap once]
  refine ⟨⟨once, ?_, isCell⟩, ⟨before, after, divided, order⟩, ?_,
    fun index cell => paintsTile_render, fun index => paintsRobot_render, ?_⟩
  · rw [sorted.length_eq, rectangular.length_cells]
  · rw [order]
    exact nodup_items divided once
  · intro kind other colour coloured otherColoured
    exact topColour_injective
      ((topColoured_iff.1 coloured).trans (topColoured_iff.1 otherColoured).symm)

/-- Nine cells, the background and the robot, although the progress is no number and the animation
leads here from a cell that is not on the map. The far lamp has been lit, and its top shows it. -/
theorem order_render_corner :
    LevelPack.corner.Small ∧
      ∃ world, World.load LevelPack.corner = .ok world ∧
        let current := world.obeyAll [.perform .walk, .light ⟨⟨2, 2⟩, .northEast⟩]
        let painter : Painter := ⟨⟨800, 600, 0, 0⟩, .turned 3, true, false⟩
        let frame := painter.render current ⟨.idle, some (.of .walk ⟨5, 0, 7⟩), ⟨0x7fc00000⟩⟩
        frame.order.Nodup ∧ frame.order.length = 11 ∧ .robot ∈ frame.order ∧
          ∃ index faces, frame.order[index]? = some (.cell ⟨2, 2⟩) ∧ faces.length = 2 ∧
            frame.commandsFor index =
              .polygon (painter.corners ⟨2, 2⟩ 0) .ground (some .outline) :: faces ++
                [.polygon (painter.corners ⟨2, 2⟩ (.ofNat 1)) .lampOn (some .outline)] := by
  have small : LevelPack.corner.Small := ⟨by decide, by decide⟩
  refine ⟨small, _, rfl, ?_⟩
  intro current painter frame
  obtain ⟨⟨_, count, onMap⟩, ⟨before, after, divided, order⟩, once, tiles, _⟩ :=
    @order_render LevelPack.corner _ rfl small [.perform .walk, .light ⟨⟨2, 2⟩, .northEast⟩]
      painter ⟨.idle, some (.of .walk ⟨5, 0, 7⟩), ⟨0x7fc00000⟩⟩
  refine ⟨once, ?_, ?_, ?_⟩
  · have nine : before.length + (after.length + 1) = 9 := by
      rw [divided, List.length_append, List.length_cons] at count
      exact count
    rw [order]
    simp only [List.length_cons, List.length_append, List.length_map]
    omega
  · rw [order]
    simp
  · have isPainted : .cell ⟨2, 2⟩ ∈ frame.order := by
      have member := (onMap ⟨2, 2⟩).2 rfl
      rw [divided] at member
      rw [order]
      simpa [or_assoc] using member
    obtain ⟨index, found⟩ := List.mem_iff_getElem?.1 isPainted
    obtain ⟨tile, isTile, paints⟩ := tiles index _ found
    obtain rfl : Tile.mk 1 (.lamp true) = tile := Option.some.inj isTile
    refine ⟨index, ?_⟩
    generalize frame.commandsFor index = commands at paints
    cases paints with
    | flat level => exact absurd level (by decide)
    | raised _ _ _ each isTop =>
        cases isTop
        exact ⟨_, found, each.length_eq, rfl⟩

end Lamplighter.Painter
