import Lamplighter.Engine
import Lamplighter.Projection

/-!
# Sessions

A session is a level that is being played together with what outlasts a run: the camera, the medal
limits of the level and the book of medals. It moves in ticks; in each, what the player did is taken
up first, then the engine moves by a tick, and a solved level is scored.
-/

namespace Lamplighter

/-- The level that is loaded, and how it is scored. -/
structure LevelInfo where
  id : String
  medals : MedalLimits
deriving DecidableEq, Repr

/-- What happened in a tick of a session. -/
inductive GameEvent where
  | instructionStarted (action : Action) (animation : Animation)
  | blocked (action : Action)
  | mapSolved (executed : UInt32) (medal : Medal)
  | programFinished (executed : UInt32)
  | tick
deriving DecidableEq, Repr

/-- What the player did before a tick. -/
structure TickInput where
  /-- A program from the program editor. -/
  program : Option Program
  /-- Start a run from the spawn, or stop the one in progress. -/
  run : Bool
  stop : Bool
  cycleSpeed : Bool
  rotateLeft : Bool
  rotateRight : Bool
deriving DecidableEq

/-- The player did nothing. -/
def TickInput.nothing : TickInput := ⟨none, false, false, false, false, false⟩

/-- A level that is being played. -/
structure Session where
  world : World
  engine : Engine
  camera : Camera
  level : LevelInfo
  book : MedalBook
  /-- The medal of the last run that solved the level; a new run clears it. -/
  lastMedal : Option Medal
deriving DecidableEq

namespace Session

/-- A session on a level. -/
def new (id : String) (level : Level) : Except LevelError Session := do
  let world ← World.load level
  return {
    world
    engine := .new
    camera := .straight
    level := ⟨id, level.medals⟩
    book := .empty
    lastMedal := none }

/-- The session on another level. Speed, camera and book stay. -/
def loadLevel (session : Session) (id : String) (level : Level) : Except LevelError Session := do
  let world ← World.load level
  return {
    session with
    world
    engine := Engine.new.setSpeed session.engine.speed
    level := ⟨id, level.medals⟩
    lastMedal := none }

/-- Where the map is drawn on a canvas of a size. -/
def projection (session : Session) (width height : Binary32) : Projection :=
  .forGame session.world.grid session.world.spawn.position session.camera width height

/-! ## Ticks -/

/-- Put the engine and the world back. -/
def reset (session : Session) : Session :=
  let (engine, world) := session.engine.reset session.world
  { session with engine, world }

/-- Take up the turns of the camera and the speed button. -/
def steer (session : Session) (input : TickInput) : Session :=
  let camera := if input.rotateLeft then session.camera.rotateLeft else session.camera
  let camera := if input.rotateRight then camera.rotateRight else camera
  let engine := if input.cycleSpeed then session.engine.cycleSpeed else session.engine
  { session with camera, engine }

/-- Take up the stop button. -/
def halt (session : Session) (input : TickInput) : Session :=
  if input.stop then session.reset else session

/-- Take up a program. -/
def supply (session : Session) (input : TickInput) : Session :=
  match input.program with
  | some program => { session with engine := session.engine.queue program }
  | none => session

/-- Take up the run button: it stops a run in progress, and otherwise starts one from the spawn. -/
def toggle (session : Session) (input : TickInput) : Session :=
  if input.run then
    if session.engine.isRunning then
      session.reset
    else
      let cleared := session.reset
      { cleared with engine := cleared.engine.execute, lastMedal := none }
  else
    session

/-- Take up everything that the player did, in the order in which it counts. -/
def prepare (session : Session) (input : TickInput) : Session :=
  (((session.steer input).halt input).supply input).toggle input

/-- Take up one event of the engine. -/
def take (session : Session) : EngineEvent → Session × List GameEvent
  | .started action animation =>
      (session, .instructionStarted action animation ::
        if animation.movement = .blocked then [.blocked action] else [])
  | .solved executed =>
      let medal := session.level.medals.award executed
      ({ session with
          book := session.book.record session.level.id ⟨medal, executed⟩
          lastMedal := some medal },
        [.mapSolved executed medal])
  | .finished executed => (session, [.programFinished executed])

/-- Take up the events of the engine, one after the other. -/
def takeAll (session : Session) : List EngineEvent → Session × List GameEvent
  | [] => (session, [])
  | event :: rest =>
      let (after, first) := session.take event
      let (last, further) := after.takeAll rest
      (last, first ++ further)

/-- Move by one tick, after the player did what the input says. -/
def tick (session : Session) (input : TickInput) : Session × List GameEvent :=
  let prepared := session.prepare input
  let (engine, world, engineEvents) := prepared.engine.tick prepared.world
  let (after, events) := { prepared with engine, world }.takeAll engineEvents
  (after, events ++ [.tick])

end Session

end Lamplighter
