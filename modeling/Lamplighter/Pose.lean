/-!
# Cells, headings and poses

A cell is a place on the plane of the map, inside the map or not. Coordinates are 32-bit integers
and wrap around. A heading is one of the four directions in which a robot can look; their order is
the order of the numbers that level files use.
-/

namespace Lamplighter

/-- A place on the plane of the map, or a step from one place to another. -/
structure Cell where
  x : Int32
  y : Int32
deriving DecidableEq, Repr

namespace Cell

instance : Add Cell := ⟨fun left right => ⟨left.x + right.x, left.y + right.y⟩⟩

instance : Sub Cell := ⟨fun left right => ⟨left.x - right.x, left.y - right.y⟩⟩

/-- The cell of a column and a row. -/
def ofIndices (column row : Nat) : Cell := ⟨Int32.ofNat column, Int32.ofNat row⟩

/-- The column and the row of a cell that is behind neither edge. -/
def indices? (cell : Cell) : Option (Nat × Nat) :=
  if 0 ≤ cell.x ∧ 0 ≤ cell.y then some (cell.x.toInt.toNat, cell.y.toInt.toNat) else none

end Cell

/-- A direction in which a robot can look. -/
inductive Heading where
  | southEast
  | northEast
  | northWest
  | southWest
deriving DecidableEq, Repr

/-- A quarter turn. -/
inductive Turn where
  | left
  | right
deriving DecidableEq, Repr

namespace Heading

/-- Every heading, in the order of their numbers. -/
def all : List Heading := [southEast, northEast, northWest, southWest]

/-- The number of a heading in level files. -/
def index : Heading → UInt8
  | southEast => 0
  | northEast => 1
  | northWest => 2
  | southWest => 3

/-- The heading of a number. -/
def ofIndex? (index : UInt8) : Option Heading := all[index.toNat]?

/-- The short name of a heading. -/
def name : Heading → String
  | southEast => "Se"
  | northEast => "Ne"
  | northWest => "Nw"
  | southWest => "Sw"

/-- The step to the next cell in a direction. -/
def step : Heading → Cell
  | northEast => ⟨1, 0⟩
  | northWest => ⟨0, 1⟩
  | southWest => ⟨-1, 0⟩
  | southEast => ⟨0, -1⟩

/-- The heading after a quarter turn. -/
def turned : Heading → Turn → Heading
  | southEast, .left => northEast
  | northEast, .left => northWest
  | northWest, .left => southWest
  | southWest, .left => southEast
  | southEast, .right => southWest
  | northEast, .right => southEast
  | northWest, .right => northEast
  | southWest, .right => northWest

end Heading

/-- Where a robot stands and where it looks. -/
structure Pose where
  position : Cell
  heading : Heading
deriving DecidableEq, Repr

namespace Pose

/-- The cell in front of a robot. -/
def ahead (pose : Pose) : Cell := pose.position + pose.heading.step

/-- The pose after a quarter turn on the spot. -/
def turned (pose : Pose) (turn : Turn) : Pose := { pose with heading := pose.heading.turned turn }

end Pose

end Lamplighter
