import Lamplighter.Binary32
import Lamplighter.Pose

/-!
# Points

Points of the screen are in pixels from the top left corner. Points of the world have their first
coordinate along the columns of a map, their second one upwards, and their third one along its rows.
-/

namespace Lamplighter

/-- A point of the screen, or a step from one to another. -/
structure Point where
  x : Binary32
  y : Binary32
deriving DecidableEq, Repr

namespace Point

instance : Add Point := ⟨fun left right => ⟨left.x + right.x, left.y + right.y⟩⟩

instance : Sub Point := ⟨fun left right => ⟨left.x - right.x, left.y - right.y⟩⟩

/-- A step of a multiple of the length. -/
def scale (step : Point) (factor : Binary32) : Point := ⟨step.x * factor, step.y * factor⟩

/-- The step of length one in the same direction. There is none where the reciprocal of the length
is not a positive number; the result is then the step that leads nowhere. -/
def normalizedOrZero (step : Point) : Point :=
  let reciprocal := 1 / (step.x * step.x + step.y * step.y).sqrt
  if reciprocal.isFinite && Binary32.lt 0 reciprocal then step.scale reciprocal else ⟨0, 0⟩

/-- The step to the right of a step, as long as it. -/
def perpendicular (step : Point) : Point := ⟨-step.y, step.x⟩

/-- A point of a canvas in the coordinates of a device, which run from `-1` to `1` in both
directions, the second one upwards. A canvas without extent has only its middle. -/
def toDevice (point : Point) (width height : Binary32) : Point :=
  if width.le 0 || height.le 0 then ⟨0, 0⟩
  else ⟨point.x / width * 2 - 1, 1 - point.y / height * 2⟩

end Point

/-- A point of the world. -/
structure WorldPoint where
  x : Binary32
  y : Binary32
  z : Binary32
deriving DecidableEq, Repr

/-- The coordinates of a cell as a point. -/
def Cell.toPoint (cell : Cell) : Point :=
  ⟨.ofInt cell.x.toInt, .ofInt cell.y.toInt⟩

/-- The length of the edges of a tile in the world. -/
def edgeLength : Binary32 := 50

/-- The height of one step, as a fraction of the edges. -/
def heightScale : Binary32 := .ofFraction false 1 2

/-- The point of the world at a column and a row of the map, and at a height in steps. -/
def WorldPoint.ofMap (column height row : Binary32) : WorldPoint :=
  ⟨column * edgeLength, height * heightScale * edgeLength, row * edgeLength⟩

end Lamplighter
