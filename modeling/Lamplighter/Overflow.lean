import Lamplighter.Session

/-!
# Arithmetic that overflows

Places, heights and counts are numbers of 32 bits, and quarter turns are counted in 8 bits. What a
step makes of them is defined with arithmetic that wraps around at the ends of their range, sizes
included; a game that checks its arithmetic breaks off at such an end instead. This module says
which steps come to one. All others are the same in both games: a checked tick, `Engine.tick?` or
`Session.tick?`, either has the outcome of the tick or none.
-/

namespace Lamplighter

/-- Turning a camera overflows. A turn to the left is counted as three to the right. -/
def Camera.turnOverflows (camera : Camera) : Turn → Bool
  | .left => decide (UInt8.size ≤ camera.rotation.toNat + 3)
  | .right => decide (UInt8.size ≤ camera.rotation.toNat + 1)

/-- Taking the opposite of a coordinate overflows. -/
def negationOverflows (coordinate : Int32) : Bool :=
  decide ((-coordinate).toInt ≠ -coordinate.toInt)

/-- Turning a cell by quarter turns overflows. -/
def Cell.rotateQuarterOverflows (cell : Cell) (turns : UInt8) : Bool :=
  match turns.toNat % 4 with
  | 0 => false
  | 1 => negationOverflows cell.x
  | 2 => negationOverflows cell.x || negationOverflows cell.y
  | _ => negationOverflows cell.y

/-- The cell in front of a pose lies outside the range of coordinates. -/
def Pose.aheadOverflows (pose : Pose) : Bool :=
  decide (pose.ahead.x.toInt ≠ pose.position.x.toInt + pose.heading.step.x.toInt) ||
    decide (pose.ahead.y.toInt ≠ pose.position.y.toInt + pose.heading.step.y.toInt)

namespace World

/-- Taking the climb ahead of a pose overflows. Off the map no climb is taken. -/
def climbOverflows (world : World) (pose : Pose) : Bool :=
  match world.heightAt? pose.position with
  | none => false
  | some here =>
      pose.aheadOverflows ||
        match world.heightAt? pose.ahead with
        | none => false
        | some there => decide ((there - here).toInt ≠ there.toInt - here.toInt)

/-- Asking whether a robot can walk overflows. The lowest climb has no size in the range. -/
def canWalkOverflows (world : World) (pose : Pose) : Bool :=
  world.climbOverflows pose || decide (world.climbAhead? pose = some Int32.minValue)

/-- Performing an action overflows. -/
def performOverflows (world : World) : Action → Bool
  | .walk => world.canWalkOverflows world.pose
  | .jump => world.climbOverflows world.pose
  | .light => false
  | .turnLeft => false
  | .turnRight => false

end World

namespace Engine

/-- The action that the next tick starts, if it starts one. -/
def nextAction? (engine : Engine) : Option Action :=
  if engine.isRunning && engine.isReady then
    match engine.cursor, engine.program with
    | some cursor, some program => (cursor.advance program).1
    | _, _ => none
  else
    none

/-- Counting one more action overflows. -/
def countOverflows (engine : Engine) : Bool := decide (UInt32.size ≤ engine.executed.toNat + 1)

/-- A tick of the clock overflows: performing the action that it starts does, or counting it. -/
def tickOverflows (engine : Engine) (world : World) : Bool :=
  match engine.nextAction? with
  | some action => world.performOverflows action || engine.countOverflows
  | none => false

/-- A tick of the clock in a game that checks its arithmetic. Where the tick overflows, the game
breaks off, and nothing is told or left. -/
def tick? (engine : Engine) (world : World) : Option (Engine × World × List EngineEvent) :=
  if engine.tickOverflows world then none else some (engine.tick world)

end Engine

namespace Session

/-- Taking up the turns of the camera overflows. -/
def steerOverflows (session : Session) (input : TickInput) : Bool :=
  let camera := if input.rotateLeft then session.camera.rotateLeft else session.camera
  (input.rotateLeft && session.camera.turnOverflows .left) ||
    (input.rotateRight && camera.turnOverflows .right)

/-- A tick overflows, after the player did what the input says. -/
def tickOverflows (session : Session) (input : TickInput) : Bool :=
  let prepared := session.prepare input
  prepared.engine.tickOverflows prepared.world

/-- Move by one tick in a game that checks its arithmetic. -/
def tick? (session : Session) (input : TickInput) : Option (Session × List GameEvent) :=
  if session.steerOverflows input || session.tickOverflows input then none
  else some (session.tick input)

end Session

end Lamplighter
