import Lamplighter.Grid

/-!
# Worlds

A world is a level that is being played: the grid as it is now, the grid as it was loaded, and where
the robot started and is. A level is loaded only if it is a rectangle with a known heading, a
starting cell on the map and at least one lamp.
-/

namespace Lamplighter

/-- A level that is being played. -/
structure World where
  grid : Grid
  /-- The grid as it was loaded. -/
  initial : Grid
  spawn : Pose
  pose : Pose
deriving DecidableEq, Repr

namespace World

/-- Load a level. -/
def load (level : Level) : Except LevelError World := do
  let grid ← Grid.ofLevelRows level.map
  match Heading.ofIndex? level.direction with
  | none => .error (.badDirection level.direction)
  | some heading =>
      if !grid.contains level.position then
        .error (.spawnOutOfBounds level.position grid.columns grid.rowCount)
      else if grid.lampCount = 0 then
        .error .noLamps
      else
        let spawn : Pose := ⟨level.position, heading⟩
        return { grid, initial := grid, spawn, pose := spawn }

/-- The level that was loaded, with the given medal limits. -/
def toLevel (world : World) (medals : MedalLimits) : Level where
  direction := world.spawn.heading.index
  position := world.spawn.position
  map := world.initial.toLevelRows
  medals := medals

/-- The cell in front of a pose, if it is on the map. -/
def cellAhead? (world : World) (pose : Pose) : Option Cell :=
  if world.grid.contains pose.ahead then some pose.ahead else none

/-- The height of a cell as a signed number of 32 bits. Heights from `2 ^ 31` on are negative. -/
def heightAt? (world : World) (cell : Cell) : Option Int32 :=
  (world.grid.tile? cell).map (·.height.toInt32)

/-- How much higher the cell in front of a pose is. -/
def climbAhead? (world : World) (pose : Pose) : Option Int32 :=
  match world.heightAt? pose.position, world.heightAt? pose.ahead with
  | some here, some there => some (there - here)
  | _, _ => none

/-- A robot can walk at most one step up or down. The size of the lowest number wraps around to that
number itself. -/
def canWalk (world : World) (pose : Pose) : Bool :=
  match world.climbAhead? pose with
  | some climb => decide (climb.abs ≤ 1)
  | none => false

/-- A robot can jump to any cell on the map, at whatever height. -/
def canJump (world : World) (pose : Pose) : Bool := (world.climbAhead? pose).isSome

/-- Whether there is a lamp at a pose. -/
def hasLampAt (world : World) (pose : Pose) : Bool :=
  match world.grid.tile? pose.position with
  | some tile => tile.isLamp
  | none => false

/-- Light the lamp at a pose, if there is one. A lamp that is lit stays lit. -/
def lightAt (world : World) (pose : Pose) : World :=
  { world with grid := world.grid.update pose.position Tile.lightUp }

/-- Turn the robot on the spot. -/
def turn (world : World) (turn : Turn) : World := { world with pose := world.pose.turned turn }

/-- Put the robot on a cell. -/
def moveTo (world : World) (cell : Cell) : World :=
  { world with pose := { world.pose with position := cell } }

/-- Whether every lamp is lit. -/
def isSolved (world : World) : Bool := world.grid.allLit

/-- The world as it was loaded. -/
def reset (world : World) : World := { world with grid := world.initial, pose := world.spawn }

/-- The number of lamps. -/
def lampCount (world : World) : Nat := world.grid.lampCount

/-- The number of lamps that are lit. -/
def litCount (world : World) : Nat := world.grid.litCount

end World

end Lamplighter
