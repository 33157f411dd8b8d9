import Lamplighter.Engine
import Lamplighter.Journal

/-!
# What worlds and engines tell

What is told follows from what goes into a step and what comes out of it. A blocked move is told
with the cell on which the robot stood, a run with its length, and the end of a run with its count.
-/

namespace Lamplighter

/-- What a loaded world tells. -/
def World.loadNotes (world : World) : List Message :=
  let columns := world.grid.columns
  let rows := world.grid.rowCount
  let lamps := world.lampCount
  let x := world.spawn.position.x.toInt
  let y := world.spawn.position.y.toInt
  let heading := world.spawn.heading.name
  [.info s!"Loaded {columns}x{rows} map with {lamps} lamps, spawn ({x}, {y}) facing {heading}"]

namespace Engine

/-- What an engine tells when it is given a program. -/
def queueNotes (engine : Engine) : List Message :=
  if engine.isRunning then [.debug "queue ignored: engine is running"] else []

/-- What an engine tells when it is to start a run. -/
def executeNotes (engine : Engine) : List Message :=
  if engine.isRunning then
    [.debug "execute ignored: engine is already running"]
  else
    match engine.program with
    | none => [.debug "execute ignored: no program queued"]
    | some program =>
        [.info (s!"Running program: {program.size} instructions, " ++
          s!"{program.shownLength} expanded")]

/-- What an engine tells when it is stopped. -/
def stopNotes (engine : Engine) : List Message :=
  if engine.isRunning then [.info s!"Run stopped after {engine.executed} instructions"] else []

/-- What an engine tells of one event, for a robot that stood at the given pose. -/
def eventNotes (pose : Pose) : EngineEvent → List Message
  | .started action animation =>
      if animation.movement = .blocked then
        let x := pose.position.x.toInt
        let y := pose.position.y.toInt
        [.debug s!"{action.word} blocked at IVec2({x}, {y})"]
      else
        []
  | .solved executed => [.info s!"Map solved after {executed} instructions"]
  | .finished executed => [.info s!"Program finished after {executed} instructions"]

/-- What an engine tells in a tick. -/
def tickNotes (engine : Engine) (world : World) : List Message :=
  (engine.tick world).2.2.flatMap (eventNotes world.pose)

/-- What an engine tells while a program is being run, for at most a number of ticks. -/
def runNotes (engine : Engine) (world : World) : (ticks : Nat) → List Message
  | 0 => []
  | ticks + 1 =>
      if engine.isRunning then
        let (next, after, _) := engine.tick world
        engine.tickNotes world ++ next.runNotes after ticks
      else
        []

end Engine

/-- What is told while a program is run to its end. -/
def World.afterRunNotes (world : World) (program : Program) : List Message :=
  let queued := Engine.new.queue program
  queued.executeNotes ++ queued.execute.runNotes world program.tickBound

end Lamplighter
