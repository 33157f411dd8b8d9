import Lamplighter.Animation
import Lamplighter.Binary32
import Lamplighter.Program.Cursor
import Lamplighter.World

/-!
# The engine

The engine runs a program against a world, one action at a time. `World.perform` says what an action
does to a world and how that is shown; the engine says when: the next action starts only when the
animation of the last one has been played to its end. A run ends when every lamp is lit or when no
action is left.
-/

namespace Lamplighter

namespace World

/-- Move the robot onto the cell in front of it. -/
def stepForward (world : World) (movement : Movement) : World × Animation :=
  let step := world.pose.heading.step
  let climb := (world.climbAhead? world.pose).getD 0
  (world.moveTo world.pose.ahead, .of movement ⟨step.x, step.y, climb⟩)

/-- Perform one action: the world after it, and how it is shown. -/
def perform (world : World) : Action → World × Animation
  | .walk =>
      if world.canWalk world.pose then world.stepForward .walk else (world, .still .blocked)
  | .jump =>
      match world.climbAhead? world.pose with
      | some climb => world.stepForward (if climb < 0 then .jumpDown else .jumpUp)
      | none => (world, .still .blocked)
  | .light => (world.lightAt world.pose, .still .light)
  | .turnLeft => (world.turn .left, .still .turnLeft)
  | .turnRight => (world.turn .right, .still .turnRight)

end World

/-- Whether a program is being run. -/
inductive Mode where
  | idle
  | running
deriving DecidableEq, Repr

/-- What happened in a tick of the engine. Counts are of the actions of the run so far. -/
inductive EngineEvent where
  | started (action : Action) (animation : Animation)
  | solved (executed : UInt32)
  | finished (executed : UInt32)
deriving DecidableEq, Repr

/-- The state of the engine. -/
structure Engine where
  mode : Mode
  program : Option Program
  cursor : Option Cursor
  animation : Option Animation
  /-- The ticks of the current animation that have been played. -/
  elapsed : Nat
  speed : Speed
  /-- The actions of the current or last run. -/
  executed : UInt32
deriving DecidableEq

namespace Engine

/-- An engine that has not been given anything. -/
def new : Engine where
  mode := .idle
  program := none
  cursor := none
  animation := none
  elapsed := 0
  speed := .normal
  executed := 0

/-- Whether a program is being run. -/
def isRunning (engine : Engine) : Bool := engine.mode == .running

/-- Choose a speed. It counts from the next tick on. -/
def setSpeed (engine : Engine) (speed : Speed) : Engine := { engine with speed }

/-- Press the speed button. -/
def cycleSpeed (engine : Engine) : Engine := { engine with speed := engine.speed.next }

/-- Whether the current animation has been played to its end. -/
def isReady (engine : Engine) : Bool :=
  match engine.animation with
  | some animation => decide (animation.duration.toNat ≤ engine.elapsed)
  | none => true

/-- Whether the run has further actions. -/
def hasNext (engine : Engine) : Bool :=
  match engine.cursor with
  | some cursor => !cursor.isExhausted
  | none => false

/-- Forget the last run and stand at the start of a program. -/
def rewind (engine : Engine) (program : Program) : Engine :=
  { engine with cursor := some (.start program), animation := none, elapsed := 0, executed := 0 }

/-- Give the engine a program. While it runs, it takes none. -/
def queue (engine : Engine) (program : Program) : Engine :=
  if engine.isRunning then engine else { engine.rewind program with program := some program }

/-- Start to run the program that the engine has, if it has one and does not run already. -/
def execute (engine : Engine) : Engine :=
  if engine.isRunning then
    engine
  else
    match engine.program, engine.cursor with
    | none, _ => engine
    | some program, none => { engine.rewind program with mode := .running }
    | some _, some _ => { engine with mode := .running }

/-- Forget the run, but neither the program nor the speed. -/
def halt (engine : Engine) : Engine :=
  { engine with mode := .idle, cursor := none, animation := none, elapsed := 0, executed := 0 }

/-- Forget the run and put the world back to how it was loaded. -/
def reset (engine : Engine) (world : World) : Engine × World := (engine.halt, world.reset)

/-- The engine and the world after the next action has started or the run has ended, with what
happened. -/
def proceed (engine : Engine) (world : World) : Engine × World × List EngineEvent :=
  let (next, cursor) :=
    match engine.cursor, engine.program with
    | some cursor, some program =>
        let (action, after) := cursor.advance program
        (action, some after)
    | cursor, _ => (none, cursor)
  match next with
  | none =>
      ({ engine with mode := .idle, cursor := none }, world, [.finished engine.executed])
  | some action =>
      let (after, animation) := world.perform action
      let executed := engine.executed + 1
      let started := { engine with cursor, animation := some animation, elapsed := 0, executed }
      if after.isSolved then
        ({ started with mode := .idle, cursor := none }, after,
          [.started action animation, .solved executed])
      else
        (started, after, [.started action animation])

/-- Play the current animation for one tick of the clock. -/
def play (engine : Engine) : Engine :=
  if engine.isReady then engine
  else { engine with elapsed := engine.elapsed + engine.speed.multiplier }

/-- One tick of the clock: start the next action if it is time for it, then play the animation. -/
def tick (engine : Engine) (world : World) : Engine × World × List EngineEvent :=
  if engine.isRunning && engine.isReady then
    let (proceeded, after, events) := engine.proceed world
    (proceeded.play, after, events)
  else
    (engine.play, world, [])

/-- How much of the current animation has been played, as a fraction of it. Without an animation
there is nothing left to play. -/
def progress (engine : Engine) : Binary32 :=
  match engine.animation with
  | some animation =>
      if animation.duration = 0 then 1
      else (Binary32.ofNat engine.elapsed / .ofNat animation.duration.toNat).min 1
  | none => 1

/-- What a painter needs to know about a run. -/
structure Snapshot where
  mode : Mode
  animation : Option Animation
  progress : Binary32
deriving DecidableEq

/-- What a painter needs to know about the run of an engine. -/
def snapshot (engine : Engine) : Snapshot := ⟨engine.mode, engine.animation, engine.progress⟩

/-- Tick while a program is being run, for at most a number of ticks. -/
def runFor (engine : Engine) (world : World) : (ticks : Nat) → Engine × World
  | 0 => (engine, world)
  | ticks + 1 =>
      if engine.isRunning then
        let (next, after, _) := engine.tick world
        next.runFor after ticks
      else
        (engine, world)

end Engine

/-- As many ticks as a run of a program can take at normal speed: no animation is longer than twenty
ticks, and the end of the program is noticed in a tick of its own. -/
def Program.tickBound (program : Program) : Nat := 20 * program.length + 1

/-- The world after a program has been run to its end. -/
def World.afterRun (world : World) (program : Program) : World :=
  ((Engine.new.queue program).execute.runFor world program.tickBound).2

end Lamplighter
