import Lamplighter.Geometry
import Lamplighter.Grid

/-!
# Cameras and projections

A camera turns the map about its corner by quarter turns; a projection then draws the turned world
in an isometric view and moves it to its place on the canvas. Quarter turns exist for points and for
cells, and both follow the same rule.
-/

namespace Lamplighter

/-- How often the map is turned by a quarter. A camera that the game makes is turned less than four
times. -/
structure Camera where
  rotation : UInt8
deriving DecidableEq, Repr

namespace Camera

/-- The camera after a number of quarter turns. -/
def turned (rotation : UInt8) : Camera := ⟨rotation % 4⟩

/-- The camera that does not turn the map. -/
def straight : Camera := ⟨0⟩

/-- The camera after a quarter turn to the left. -/
def rotateLeft (camera : Camera) : Camera := turned (camera.rotation + 3)

/-- The camera after a quarter turn to the right. -/
def rotateRight (camera : Camera) : Camera := turned (camera.rotation + 1)

end Camera

/-- Turn a point of the ground by quarter turns. -/
def Point.rotateQuarter (point : Point) (turns : UInt8) : Point :=
  match turns.toNat % 4 with
  | 0 => point
  | 1 => ⟨point.y, -point.x⟩
  | 2 => ⟨-point.x, -point.y⟩
  | _ => ⟨-point.y, point.x⟩

/-- Turn a cell by quarter turns. -/
def Cell.rotateQuarter (cell : Cell) (turns : UInt8) : Cell :=
  match turns.toNat % 4 with
  | 0 => cell
  | 1 => ⟨cell.y, -cell.x⟩
  | 2 => ⟨-cell.x, -cell.y⟩
  | _ => ⟨-cell.y, cell.x⟩

/-- Pixels to the side for each unit of the world along a column or a row. -/
def isoX : Binary32 := .ofFraction false 707 1000

/-- Pixels up for each unit of the world along a column or a row. -/
def isoY : Binary32 := .ofFraction false 321 1000

/-- Pixels up for each unit of the world in height. -/
def isoHeight : Binary32 := .ofFraction false 891 1000

/-- The space between the lowest corner of the map and the bottom of the canvas. -/
def bottomMargin : Binary32 := 50

/-- The place of the centre of the map in the editor, as a fraction of the height of the canvas. -/
def editorCentre : Binary32 := .ofFraction false 55 100

/-- Where a map is drawn on a canvas. -/
structure Projection where
  canvasWidth : Binary32
  canvasHeight : Binary32
  offsetX : Binary32
  offsetY : Binary32
deriving DecidableEq, Repr

namespace Projection

/-- The point of the screen at which a point of the world is seen. -/
def project (projection : Projection) (point : WorldPoint) (camera : Camera) : Point :=
  let ground := Point.rotateQuarter ⟨point.x, point.z⟩ camera.rotation
  ⟨projection.offsetX + isoX * ground.x - isoX * ground.y,
    projection.canvasHeight -
      (projection.offsetY + isoY * ground.x + isoY * ground.y + isoHeight * point.y)⟩

/-- The point of the screen at which a place on the map is seen. -/
def projectMap (projection : Projection) (column height row : Binary32) (camera : Camera) : Point :=
  projection.project (.ofMap column height row) camera

/-- A place on the ground of the map, turned by a camera. -/
def turnedGround (column row : Binary32) (camera : Camera) : Point :=
  let point := WorldPoint.ofMap column 0 row
  Point.rotateQuarter ⟨point.x, point.z⟩ camera.rotation

/-- The offset that brings a point of the turned ground to the middle of the canvas. -/
def centredOffset (width : Binary32) (ground : Point) : Binary32 :=
  width / 2 - isoX * (ground.x - ground.y)

/-- The four outer corners of the ground of a grid. -/
def groundCorners (grid : Grid) : List Point :=
  let width := Binary32.ofNat grid.columns * edgeLength
  let depth := Binary32.ofNat grid.rowCount * edgeLength
  [⟨0, 0⟩, ⟨width, 0⟩, ⟨width, depth⟩, ⟨0, depth⟩]

/-- The projection of the game: the cell at which the robot starts is in the middle from left to
right, and the lowest corner of the ground keeps its distance from the bottom. -/
def forGame (grid : Grid) (spawn : Cell) (camera : Camera) (width height : Binary32) : Projection :=
  let half := Binary32.ofFraction false 1 2
  let place := spawn.toPoint
  let centre := turnedGround (place.x + half) (place.y + half) camera
  let heights := (groundCorners grid).map fun corner =>
    let turned := corner.rotateQuarter camera.rotation
    isoY * (turned.x + turned.y)
  let lowest := heights.foldl Binary32.min (.infinity false)
  ⟨width, height, centredOffset width centre, bottomMargin - lowest⟩

/-- The projection of the editor: the centre of the map is in the middle from left to right, and at
its fraction of the height. -/
def forEditor (columns rows : Nat) (camera : Camera) (width height : Binary32) : Projection :=
  let centre := turnedGround (.ofNat columns / 2) (.ofNat rows / 2) camera
  ⟨width, height, centredOffset width centre,
    (1 - editorCentre) * height - isoY * (centre.x + centre.y)⟩

end Projection

end Lamplighter
