import Lamplighter.Polygon
import Lamplighter.Scene.Painter

/-!
# The map editor

An author works on a map with four tools, one cell at a time. Clicks are resolved on the screen:
among the cells whose top contains the point, the one painted last is meant. A map becomes a level
with unset medal limits, and a level becomes a map if it is a rectangle with a known heading and a
starting cell on it; it need not have a lamp.
-/

namespace Lamplighter

/-- A tool of the editor. -/
inductive Tool where
  /-- Raise a tile by a step, as plain ground. -/
  | block
  /-- Make a tile a lamp, raised from the ground plane if it has to be. -/
  | lamp
  /-- Let the robot start here. -/
  | spawn
  /-- Flatten a tile. -/
  | erase
deriving DecidableEq, Repr

namespace Tool

/-- Every tool, in the order of their keys. -/
def all : List Tool := [block, lamp, spawn, erase]

/-- The name of a tool. -/
def name : Tool → String
  | block => "Block"
  | lamp => "Lamp"
  | spawn => "Spawn"
  | erase => "Erase"

/-- The tool of a key. -/
def ofKey? : String → Option Tool
  | "1" => some block
  | "2" => some lamp
  | "3" => some spawn
  | "4" => some erase
  | _ => none

end Tool

/-- A map that is being edited. -/
structure Editor where
  /-- Rows from the top of the picture downwards. -/
  tiles : List (List Tile)
  spawn : Pose
  tool : Tool
  /-- The heading that the spawn tool gives to the robot. -/
  spawnHeading : Heading
  camera : Camera
  /-- The size of the canvas. -/
  viewport : Point
deriving DecidableEq, Repr

namespace Editor

/-- The least number of rows and of columns that can be asked for. -/
def minSize : Nat := 3

/-- The greatest number of rows and of columns that can be asked for. -/
def maxSize : Nat := 12

/-- The number of rows and of columns of a new map. -/
def defaultSize : Nat := 8

/-- The editor with a flat map of a size, on which the robot starts in the middle. -/
def flattened (editor : Editor) (columns rows : Nat) : Editor :=
  { editor with
    tiles := List.replicate rows (List.replicate columns (.ground 0))
    spawn := ⟨.ofIndices (columns / 2) (rows / 2), .southEast⟩ }

/-- The editor at its start. -/
def new (viewport : Point) : Editor :=
  let bare : Editor := {
    tiles := []
    spawn := ⟨⟨0, 0⟩, .southEast⟩
    tool := .block
    spawnHeading := .southEast
    camera := .straight
    viewport }
  bare.flattened defaultSize defaultSize

/-- The number of columns. -/
def columns (editor : Editor) : Nat := (editor.tiles.head?.map List.length).getD 0

/-- The number of rows. -/
def rowCount (editor : Editor) : Nat := editor.tiles.length

/-- The tile of a cell. -/
def tile? (editor : Editor) (cell : Cell) : Option Tile :=
  match cell.indices? with
  | some (column, row) => editor.tiles[row]?.bind (·[column]?)
  | none => none

/-- Change the tile of a cell. -/
def update (editor : Editor) (cell : Cell) (change : Tile → Tile) : Editor :=
  match cell.indices? with
  | some (column, row) =>
      { editor with tiles := editor.tiles.modify row fun tiles => tiles.modify column change }
  | none => editor

/-- Put tiles on cells of the map, one after the other. -/
def put (editor : Editor) (cells : List (Cell × Tile)) : Editor :=
  cells.foldl (fun current (cell, tile) => current.update cell fun _ => tile) editor

/-- A number of rows or columns that can be had. -/
def allowedSize (size : Nat) : Nat := min (max size minSize) maxSize

/-- Start again with a flat map of a size, as far as it can be had. -/
def resize (editor : Editor) (columns rows : Nat) : Editor :=
  editor.flattened (allowedSize columns) (allowedSize rows)

/-- Start again with a flat map of the same size. -/
def clear (editor : Editor) : Editor := editor.flattened editor.columns editor.rowCount

/-- Turn the map to the left. -/
def rotateLeft (editor : Editor) : Editor := { editor with camera := editor.camera.rotateLeft }

/-- Turn the map to the right. -/
def rotateRight (editor : Editor) : Editor := { editor with camera := editor.camera.rotateRight }

/-! ## The screen -/

/-- Where the map is drawn. -/
def projection (editor : Editor) : Projection :=
  .forEditor editor.columns editor.rowCount editor.camera editor.viewport.x editor.viewport.y

/-- Who draws the map. -/
def painter (editor : Editor) : Painter := .new editor.projection editor.camera

/-- The cells of the map, row by row. -/
def cells (editor : Editor) : List Cell := (Grid.cellsOf editor.tiles).map (·.1)

/-- Whether a point of the screen is on the top of a cell. -/
def isOnTop (editor : Editor) (painter : Painter) (screen : Point) (cell : Cell) : Bool :=
  match editor.tile? cell with
  | some tile => screen.isInside (painter.topFace cell (.ofNat tile.height.toNat))
  | none => false

/-- The cell at a point of the screen: of those whose top is there, the one painted last. -/
def pick? (editor : Editor) (screen : Point) : Option Cell :=
  let painter := editor.painter
  (painter.drawOrder editor.cells).reverse.find? (editor.isOnTop painter screen)

/-! ## Editing -/

/-- Use the tool on a cell of the map. Outside of the map nothing changes. -/
def apply (editor : Editor) (cell : Cell) : Editor :=
  match editor.tile? cell with
  | none => editor
  | some _ =>
      match editor.tool with
      | .block =>
          editor.update cell fun tile =>
            .ground (if tile.height.toNat + 1 < UInt32.size then tile.height + 1 else tile.height)
      | .lamp => editor.update cell fun tile => .lamp (max tile.height 1)
      | .erase => editor.update cell fun _ => .ground 0
      | .spawn => { editor with spawn := ⟨cell, editor.spawnHeading⟩ }

/-- Use the tool on the cell at a point of the screen, if there is one. -/
def click (editor : Editor) (screen : Point) : Editor :=
  match editor.pick? screen with
  | some cell => editor.apply cell
  | none => editor

/-! ## Levels -/

/-- Whether the map has a lamp that can be lit. -/
def isPublishable (editor : Editor) : Bool :=
  editor.tiles.flatten.any fun tile => tile.isLamp && decide (0 < tile.height)

/-- The level of the map. -/
def toLevel (editor : Editor) : Except LevelError Level := do
  let grid ← Grid.ofRows editor.tiles
  return {
    direction := editor.spawn.heading.index
    position := editor.spawn.position
    map := grid.toLevelRows
    medals := .unset }

/-- Replace the map by that of a level, whose tiles are put one by one on flat ground of its size. -/
def load (editor : Editor) (level : Level) : Except LevelError Editor := do
  let grid ← Grid.ofLevelRows level.map
  match Heading.ofIndex? level.direction with
  | none => .error (.badDirection level.direction)
  | some heading =>
      if grid.contains level.position then
        return {
          (editor.flattened grid.columns grid.rowCount).put grid.cells with
          spawn := ⟨level.position, heading⟩
          spawnHeading := heading }
      else
        .error (.spawnOutOfBounds level.position grid.columns grid.rowCount)

/-! ## Painting -/

/-- The radius of the mark where the robot starts, in pixels. -/
def markerRadius : Binary32 := 6

/-- How far the mark is above the tile, in steps. -/
def markerLift : Binary32 := .ofFraction false 4 10

/-- Paint one cell of the map, the light of the pointer over it and the mark where the robot
starts. -/
def renderCell (editor : Editor) (painter : Painter) (hover : Option Cell) (frame : Frame)
    (cell : Cell) : Frame :=
  match editor.tile? cell with
  | none => frame
  | some tile =>
      let height := Binary32.ofNat tile.height.toNat
      let frame := Painter.paint (frame.start (.cell cell)) (painter.tileCommands cell tile)
      let frame :=
        if hover = some cell then frame.polygon (painter.topFace cell height) .hover none else frame
      if cell = editor.spawn.position then
        let place := cell.toPoint
        let centre := painter.screen (place.x + Painter.half) (height.max 1 + markerLift)
          (place.y + Painter.half)
        (frame.start .spawnMarker).disc centre markerRadius .spawnMarker
      else
        frame

/-- The frame of the map, perhaps with a cell under the pointer. -/
def render (editor : Editor) (hover : Option Cell) : Frame :=
  let painter := editor.painter
  (painter.drawOrder editor.cells).foldl (editor.renderCell painter hover) (.new .background)

end Editor

end Lamplighter
