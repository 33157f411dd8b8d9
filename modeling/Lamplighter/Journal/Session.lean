import Lamplighter.Journal.World
import Lamplighter.Session

/-!
# What sessions tell

A session tells what its world and its engine tell, in the order in which a tick goes through its
stages, and the book tells of every result that it takes.
-/

namespace Lamplighter

/-- What a book tells when a result is recorded. -/
def MedalBook.recordNotes (book : MedalBook) (level : String) (entry : MedalEntry) : List Message :=
  if book.improves level entry then
    [.info (s!"New best for level {level}: {entry.medal.name} " ++
      s!"({entry.executed} instructions)")]
  else
    []

namespace Session

/-- What a session tells of the speed button. -/
def steerNotes (session : Session) (input : TickInput) : List Message :=
  if input.cycleSpeed then
    let speed := session.engine.cycleSpeed.speed.multiplier
    [.debug s!"Speed x{speed}"]
  else
    []

/-- What a session tells of the stop button. -/
def haltNotes (session : Session) (input : TickInput) : List Message :=
  if input.stop then session.engine.stopNotes else []

/-- What a session tells of a program. -/
def supplyNotes (session : Session) (input : TickInput) : List Message :=
  if input.program.isSome then session.engine.queueNotes else []

/-- What a session tells of the run button. -/
def toggleNotes (session : Session) (input : TickInput) : List Message :=
  if input.run then
    if session.engine.isRunning then session.engine.stopNotes
    else session.reset.engine.executeNotes
  else
    []

/-- What a session tells when it takes up an event of the engine. -/
def takeNotes (session : Session) : EngineEvent → List Message
  | .solved executed =>
      session.book.recordNotes session.level.id ⟨session.level.medals.award executed, executed⟩
  | _ => []

/-- What a session tells when it takes up the events of the engine. -/
def takeAllNotes (session : Session) : List EngineEvent → List Message
  | [] => []
  | event :: rest => session.takeNotes event ++ (session.take event).1.takeAllNotes rest

/-- What a session tells in a tick. -/
def tickNotes (session : Session) (input : TickInput) : List Message :=
  let steered := session.steer input
  let halted := steered.halt input
  let supplied := halted.supply input
  let prepared := supplied.toggle input
  let (engine, world, events) := prepared.engine.tick prepared.world
  session.steerNotes input ++ steered.haltNotes input ++ halted.supplyNotes input ++
    supplied.toggleNotes input ++ prepared.engine.tickNotes prepared.world ++
    { prepared with engine, world }.takeAllNotes events

end Session

end Lamplighter
