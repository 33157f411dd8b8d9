import Lamplighter.Binary32
import Lamplighter.Pose
import Lamplighter.Program

/-!
# Animations

Every action is shown as one animation: what kind of movement it is, how many ticks it takes at
normal speed, and by which step the robot has changed its place. The robot has already arrived when
its animation starts, so an animation looks back.
-/

namespace Lamplighter

/-- The kinds of movement. -/
inductive Movement where
  | walk
  | jumpUp
  | jumpDown
  | light
  | turnLeft
  | turnRight
  /-- A move that could not be made. -/
  | blocked
deriving DecidableEq, Repr

namespace Movement

/-- Every kind of movement. -/
def all : List Movement := [walk, jumpUp, jumpDown, light, turnLeft, turnRight, blocked]

/-- The word for a movement. -/
def word : Movement → String
  | walk => "walk"
  | jumpUp => "jumpUp"
  | jumpDown => "jumpDown"
  | light => "light"
  | turnLeft => "turnLeft"
  | turnRight => "turnRight"
  | blocked => "blocked"

/-- The name of a movement where it stands alone. -/
def name : Movement → String
  | walk => "Walk"
  | jumpUp => "JumpUp"
  | jumpDown => "JumpDown"
  | light => "Light"
  | turnLeft => "TurnLeft"
  | turnRight => "TurnRight"
  | blocked => "Blocked"

/-- How many ticks a movement takes at normal speed. -/
def duration : Movement → UInt32
  | walk => 15
  | jumpUp => 20
  | jumpDown => 20
  | light => 12
  | turnLeft => 10
  | turnRight => 10
  | blocked => 8

/-- Whether a movement is a jump. -/
def isJump : Movement → Bool
  | jumpUp => true
  | jumpDown => true
  | _ => false

end Movement

/-- A step on the map together with the change of height that it brings. -/
structure Displacement where
  x : Int32
  y : Int32
  climb : Int32
deriving DecidableEq, Repr

namespace Displacement

/-- Staying where one is. -/
def zero : Displacement := ⟨0, 0, 0⟩

/-- The step on the map. -/
def step (delta : Displacement) : Cell := ⟨delta.x, delta.y⟩

end Displacement

/-- How one action is shown. -/
structure Animation where
  movement : Movement
  duration : UInt32
  delta : Displacement
deriving DecidableEq, Repr

namespace Animation

/-- The animation of a movement with its usual duration. -/
def of (movement : Movement) (delta : Displacement) : Animation :=
  ⟨movement, movement.duration, delta⟩

/-- The animation of a movement on the spot. -/
def still (movement : Movement) : Animation := of movement .zero

/-- Whether the robot changes its cell. -/
def moves (animation : Animation) : Bool := animation.delta.x != 0 || animation.delta.y != 0

end Animation

/-- How fast animations are played. It changes when something happens, never what happens. -/
inductive Speed where
  | normal
  | double
  | triple
deriving DecidableEq, Repr

namespace Speed

/-- Every speed, in the order of the speed button. -/
def all : List Speed := [normal, double, triple]

/-- How many ticks of an animation are played in one tick of the clock. -/
def multiplier : Speed → Nat
  | normal => 1
  | double => 2
  | triple => 3

/-- The speed of a multiplier. -/
def ofMultiplier? (multiplier : Binary32) : Option Speed :=
  all.find? fun speed => multiplier.eq (.ofNat speed.multiplier)

/-- The speed after a press of the speed button. -/
def next : Speed → Speed
  | normal => double
  | double => triple
  | triple => normal

/-- The name of a speed. -/
def name : Speed → String
  | normal => "X1"
  | double => "X2"
  | triple => "X3"

end Speed

end Lamplighter
