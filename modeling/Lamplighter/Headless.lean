import Lamplighter.FileTree
import Lamplighter.Journal.Log
import Lamplighter.Journal.Session
import Lamplighter.LevelPack
import Lamplighter.Program.Diagnosis

/-!
# Headless runs

A program is played on a built-in level without any picture, and the result is reported in one line.
Everything is decided here from the arguments and from what was read from the program's file;
nothing is read or printed.
-/

namespace Lamplighter.Headless

/-- What the arguments ask for: the number of a level and, perhaps, the path of a program. -/
structure Request where
  level : Nat
  path : Option String
deriving DecidableEq, Repr

/-- The natural number of 64 bits that an argument spells: digits, perhaps behind a plus sign. -/
def number? (argument : String) : Option Nat :=
  let unsigned :=
    match argument.toList with
    | '+' :: rest => rest
    | characters => characters
  if unsigned ≠ [] ∧ unsigned.all Char.isDigit then
    let value := Nat.ofDigitChars 10 unsigned 0
    if value < UInt64.size then some value else none
  else
    none

/-- What the arguments ask for. An argument that spells no number asks for the first level, and
further arguments for nothing. -/
def Request.ofArguments (arguments : List String) : Request where
  level := (arguments[0]?.bind number?).getD 0
  path := arguments[1]?

/-- What was found where a program was to be read. -/
inductive Source where
  /-- No path was given. -/
  | missing
  /-- The file could not be read. -/
  | unreadable (path : String) (reason : ReadFailure)
  | text (text : String)
deriving DecidableEq, Repr

/-- What was found at a path. -/
def Source.ofRead (path : String) : Except ReadFailure String → Source
  | .ok content => .text content
  | .error reason => .unreadable path reason

/-- What the path of a request leads to in a tree of files, for someone who is in the directory with
the given names. -/
def Request.source (request : Request) (files : FileTree) (home : List String) : Source :=
  match request.path with
  | none => .missing
  | some path => .ofRead path (files.read home path)

/-- Why a request cannot be met. -/
inductive Failure where
  | noLevel (level : Nat)
  | unreadable (path : String) (reason : ReadFailure)
  /-- The text is no program, because of a fault if one can be named. -/
  | malformedProgram (fault : Option Json.Fault)
  | badLevel (error : LevelError)
deriving DecidableEq, Repr

/-- The explanation of a failure. -/
def Failure.message : Failure → String
  | .noLevel level => s!"no level {level}"
  | .unreadable path reason => s!"{path}: {reason.message}"
  | .malformedProgram none => "malformed program"
  | .malformedProgram (some fault) => s!"malformed program: {fault.message}"
  | .badLevel error => error.message

/-- The program that is played when none is given. -/
def standardProgram : Program := .ofActions [.walk, .walk, .light]

/-- The program of a source. -/
def Source.program : Source → Except Failure Program
  | .missing => .ok standardProgram
  | .unreadable path reason => .error (.unreadable path reason)
  | .text content =>
      match Json.read? content with
      | some program => .ok program
      | none => .error (.malformedProgram (Program.fault? content))

/-- What the first tick of a run is told: take this program and start. -/
def startInput (program : Program) : TickInput :=
  { TickInput.nothing with program := some program, run := true }

/-- What has been played: the session, its events and what it told, newest first. -/
structure Played where
  session : Session
  newestEvents : List GameEvent
  newestNotes : List Message

/-- Play one tick. -/
def Played.tick (played : Played) (input : TickInput) : Played :=
  let (session, events) := played.session.tick input
  { session
    newestEvents := events.reverse ++ played.newestEvents
    newestNotes := (played.session.tickNotes input).reverse ++ played.newestNotes }

/-- Play on while a program is being run, for at most a number of ticks. -/
def Played.whileRunning (played : Played) : (ticks : Nat) → Played
  | 0 => played
  | ticks + 1 =>
      if played.session.engine.isRunning then (played.tick .nothing).whileRunning ticks else played

/-- Play a program to its end. -/
def play (session : Session) (program : Program) : Played :=
  ((⟨session, [], []⟩ : Played).tick (startInput program)).whileRunning program.tickBound

/-- The lines that report an event, once the run has ended. -/
def eventLines (world : World) (id : String) : GameEvent → List String
  | .mapSolved executed medal =>
      [s!"Level {id} solved in {executed} instructions: {medal.name}"]
  | .programFinished executed =>
      [s!"Level {id} not solved: {executed} instructions, " ++
        s!"{world.litCount}/{world.lampCount} lamps lit"]
  | _ => []

/-- What is told of an event, once the run has ended. -/
def eventNotes : GameEvent → List Message
  | .instructionStarted action animation =>
      [.debug s!"{action.word} -> {animation.movement.word}"]
  | .blocked action => [.info s!"{action.word} blocked"]
  | _ => []

/-- What a headless run leaves behind. -/
structure Report where
  /-- The lines that are printed. -/
  lines : List String
  failure : Option Failure
  notes : List Message

/-- What is told before anything is done. -/
def openingNotes : List Message := [
  .info "SapoBot (native) starting...",
  .info "Native mode runs headless - serve the web build for the game view"]

/-- Play a program on a level under a name. -/
def playLevel (id : String) (level : Level) (program : Program) : Except Failure Report :=
  match Session.new id level with
  | .error error => .error (.badLevel error)
  | .ok session =>
      let played := play session program
      let events := played.newestEvents.reverse
      .ok {
        lines := events.flatMap (eventLines played.session.world id)
        failure := none
        notes := session.world.loadNotes ++ played.newestNotes.reverse ++
          events.flatMap eventNotes }

/-- Meet a request with the program of a source. -/
def meet (request : Request) (source : Source) : Except Failure Report := do
  match LevelPack.id? request.level, LevelPack.level? request.level with
  | some id, some level => playLevel id level (← source.program)
  | _, _ => .error (.noLevel request.level)

/-- The report on a request, met or not. -/
def report (request : Request) (source : Source) : Report :=
  match meet request source with
  | .ok met => { met with notes := openingNotes ++ met.notes }
  | .error failure =>
      { lines := [], failure := some failure,
        notes := openingNotes ++ [.error failure.message] }

/-- The log of a report for a reader of messages of at least a severity. -/
def Report.log (report : Report) (least : Severity) : List LogLine :=
  let heard := report.notes.filter fun message => message.severity.rank ≤ least.rank
  heard.flatMap LogLine.ofMessage

/-- The exit code after a report. -/
def Report.exitCode (report : Report) : UInt8 := if report.failure.isSome then 1 else 0

end Lamplighter.Headless
