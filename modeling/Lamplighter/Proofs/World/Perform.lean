import Lamplighter.Engine

/-!
# What performing an action can do

`World.Performs` lists what an action does to a world and how it is shown, with the condition under
which it does so. A move goes to a cell of known height, so no action leaves the map.
-/

namespace Lamplighter.World

/-- The step of a robot onto the cell in front of it, which is so much higher. -/
def stride (world : World) (climb : Int32) : Displacement :=
  ⟨world.pose.heading.step.x, world.pose.heading.step.y, climb⟩

/-- A step forward to a cell of known height. -/
theorem stepForward_eq {world : World} {climb : Int32}
    (climbs : world.climbAhead? world.pose = some climb) (movement : Movement) :
    world.stepForward movement =
      (world.moveTo world.pose.ahead, .of movement (world.stride climb)) := by
  simp [stepForward, stride, climbs]

/-- What an action makes of a world, and how that is shown. -/
inductive Performs (world : World) : Action → World × Animation → Prop where
  | walks {climb : Int32} (climbs : world.climbAhead? world.pose = some climb)
      (gentle : climb.abs ≤ 1) :
      Performs world .walk (world.moveTo world.pose.ahead, .of .walk (world.stride climb))
  | cannotWalk (barred : world.canWalk world.pose = false) :
      Performs world .walk (world, .still .blocked)
  | jumpsDown {climb : Int32} (climbs : world.climbAhead? world.pose = some climb)
      (down : climb < 0) :
      Performs world .jump (world.moveTo world.pose.ahead, .of .jumpDown (world.stride climb))
  | jumpsUp {climb : Int32} (climbs : world.climbAhead? world.pose = some climb)
      (notDown : ¬ climb < 0) :
      Performs world .jump (world.moveTo world.pose.ahead, .of .jumpUp (world.stride climb))
  | cannotJump (barred : world.climbAhead? world.pose = none) :
      Performs world .jump (world, .still .blocked)
  | lights : Performs world .light (world.lightAt world.pose, .still .light)
  | turnsLeft : Performs world .turnLeft (world.turn .left, .still .turnLeft)
  | turnsRight : Performs world .turnRight (world.turn .right, .still .turnRight)

/-- Every action does one of these things. -/
theorem performs (world : World) (action : Action) :
    Performs world action (world.perform action) := by
  cases action with
  | walk =>
      cases climbs : world.climbAhead? world.pose with
      | none =>
          have barred : world.canWalk world.pose = false := by simp only [canWalk, climbs]
          simpa [perform, barred] using Performs.cannotWalk barred
      | some climb =>
          cases can : world.canWalk world.pose with
          | false => simpa [perform, can] using Performs.cannotWalk can
          | true =>
              have gentle : climb.abs ≤ 1 := by
                simpa only [canWalk, climbs, decide_eq_true_eq] using can
              simpa [perform, can, stepForward_eq climbs] using Performs.walks climbs gentle
  | jump =>
      cases climbs : world.climbAhead? world.pose with
      | none => simpa [perform, climbs] using Performs.cannotJump climbs
      | some climb =>
          by_cases down : climb < 0
          · simpa [perform, climbs, stepForward_eq climbs, down] using
              Performs.jumpsDown climbs down
          · simpa [perform, climbs, stepForward_eq climbs, down] using
              Performs.jumpsUp climbs down
  | light => exact .lights
  | turnLeft => exact .turnsLeft
  | turnRight => exact .turnsRight

/-- Only lighting changes what is on the map. -/
theorem grid_perform {world : World} {action : Action} (notLight : action ≠ .light) :
    (world.perform action).1.grid = world.grid := by
  have does := world.performs action
  generalize world.perform action = outcome at does
  cases does with
  | lights => exact absurd rfl notLight
  | _ => rfl

/-- An action that solves a level that was not solved lights a lamp. -/
theorem eq_light_of_isSolved_perform {world : World} {action : Action}
    (unsolved : world.isSolved = false) (solved : (world.perform action).1.isSolved = true) :
    action = .light := by
  by_cases light : action = .light
  · exact light
  · rw [isSolved, grid_perform light, ← isSolved, unsolved] at solved
    exact absurd solved Bool.false_ne_true

/-- An action is shown for the usual time of its movement. -/
theorem duration_of_perform (world : World) (action : Action) :
    (world.perform action).2.duration = (world.perform action).2.movement.duration := by
  have does := world.performs action
  generalize world.perform action = outcome at does
  cases does <;> rfl

end Lamplighter.World
