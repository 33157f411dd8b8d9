import Lamplighter.Medal
import Lamplighter.Pose

/-!
# Levels

A level is what authors exchange: the rows of the map from the one farthest from the viewer to the
nearest, the cell and the number of the heading at which the robot starts, and the medal limits.
Nothing is checked here; a level may have rows of any lengths, or none. What can be wrong with a
level is a `LevelError`.
-/

namespace Lamplighter

/-- What a cell of a level is marked as. -/
inductive CellMark where
  | block
  | lamp
deriving DecidableEq, Repr

/-- A cell of a level: its height in steps and its mark. -/
structure LevelCell where
  height : UInt32
  mark : CellMark
deriving DecidableEq, Repr

/-- A level as authors exchange it. -/
structure Level where
  direction : UInt8
  position : Cell
  /-- The first row is the last one from the top of the picture. -/
  map : List (List LevelCell)
  medals : MedalLimits
deriving DecidableEq, Repr

/-- Why a level cannot be played. -/
inductive LevelError where
  /-- No row has a tile. -/
  | empty
  /-- A row, counted from the top of the picture, is shorter than the widest one. -/
  | raggedRow (row expected found : Nat)
  /-- The robot would start outside the map. -/
  | spawnOutOfBounds (position : Cell) (columns rows : Nat)
  /-- The number of the heading means no heading. -/
  | badDirection (direction : UInt8)
  /-- There is nothing to light. -/
  | noLamps
deriving DecidableEq, Repr

namespace LevelError

/-- The explanation that a player sees. -/
def message : LevelError → String
  | empty => "map has no tiles"
  | raggedRow row expected found => s!"row {row} has {found} tiles, expected {expected}"
  | spawnOutOfBounds position columns rows =>
      s!"spawn ({position.x.toInt}, {position.y.toInt}) is outside the {columns}x{rows} map"
  | badDirection direction => s!"spawn direction {direction.toNat} is not in 0..=3"
  | noLamps => "map has no lamps"

end LevelError

end Lamplighter
