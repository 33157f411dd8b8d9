import Lamplighter.Headless
import Lamplighter.Proofs.Engine.Overflow
import Lamplighter.Proofs.Session.Replay
import Lamplighter.Proofs.World.Climb

/-!
# Playing without a picture

A session that is played to its end moves as its engine does: `Headless.Played.Reached` relates what
has been played to what an engine has come to and told. A run that is counted goes on for as long as
it can take, and on a moderate map no tick of it overflows (`Engine.Safe`).
-/

namespace Lamplighter

/-! ## One tick of a session -/

namespace Session

/-- What a session tells of an event of the engine. -/
def tellings (level : LevelInfo) : EngineEvent → List GameEvent
  | .started action animation => announce action animation
  | .solved executed => [.mapSolved executed (level.medals.award executed)]
  | .finished executed => [.programFinished executed]

/-- Taking up events of the engine leaves the engine, the world and the level as they are. -/
theorem takeAll_eq (session : Session) (events : List EngineEvent) :
    (session.takeAll events).1.engine = session.engine ∧
      (session.takeAll events).1.world = session.world ∧
      (session.takeAll events).1.level = session.level ∧
      (session.takeAll events).2 = events.flatMap (tellings session.level) := by
  induction events generalizing session with
  | nil => exact ⟨rfl, rfl, rfl, rfl⟩
  | cons event rest inductionHypothesis =>
      have taken : (session.take event).1.engine = session.engine ∧
          (session.take event).1.world = session.world ∧
          (session.take event).1.level = session.level ∧
          (session.take event).2 = tellings session.level event := by
        cases event <;> exact ⟨rfl, rfl, rfl, rfl⟩
      obtain ⟨engine, world, level, told⟩ := taken
      obtain ⟨engineAll, worldAll, levelAll, toldAll⟩ := inductionHypothesis (session.take event).1
      refine ⟨engineAll.trans engine, worldAll.trans world, levelAll.trans level, ?_⟩
      simp only [takeAll, toldAll, told, level, List.flatMap_cons]

/-- A tick takes up what the player did, moves the engine, and tells what happened. -/
theorem tick_eq (session : Session) (input : TickInput) :
    let prepared := session.prepare input
    let outcome := prepared.engine.tick prepared.world
    (session.tick input).1.engine = outcome.1 ∧ (session.tick input).1.world = outcome.2.1 ∧
      (session.tick input).1.level = session.level ∧
      (session.tick input).2 = outcome.2.2.flatMap (tellings session.level) ++ [.tick] := by
  intro prepared outcome
  obtain ⟨engine, world, level, told⟩ := takeAll_eq
    { prepared with engine := outcome.1, world := outcome.2.1 } outcome.2.2
  rw [← session.prepare_level input]
  exact ⟨engine, world, level, congrArg (fun events => events ++ [GameEvent.tick]) told⟩

/-- A player who does nothing changes nothing. -/
@[simp] theorem prepare_nothing (session : Session) : session.prepare .nothing = session := rfl

end Session

namespace Headless

/-! ## The loop -/

/-- What has been played on a level is what an engine has come to and told. Of the events of a
session, those that are reported count. -/
structure Played.Reached (played : Played) (level : LevelInfo)
    (outcome : Engine × World × List EngineEvent) : Prop where
  engine : played.session.engine = outcome.1
  world : played.session.world = outcome.2.1
  onLevel : played.session.level = level
  told : ∀ world id, played.newestEvents.reverse.flatMap (eventLines world id) =
    (outcome.2.2.flatMap (Session.tellings level)).flatMap (eventLines world id)

/-- A tick of the session is a tick of the engine. -/
theorem Played.Reached.tick {played : Played} {level : LevelInfo} {engine : Engine} {world : World}
    {events : List EngineEvent} (reached : played.Reached level (engine, world, events))
    {input : TickInput} {prepared : Session}
    (isPrepared : played.session.prepare input = prepared) :
    (played.tick input).Reached level
      ((prepared.engine.tick prepared.world).1, (prepared.engine.tick prepared.world).2.1,
        events ++ (prepared.engine.tick prepared.world).2.2) := by
  have moves := played.session.tick_eq input
  rw [isPrepared, reached.onLevel] at moves
  refine ⟨moves.1, moves.2.1, moves.2.2.1, fun world id => ?_⟩
  have before := reached.told world id
  simp only [Played.tick, List.reverse_append, List.reverse_reverse, List.flatMap_append,
    moves.2.2.2, before]
  simp [eventLines]

/-- Playing on is ticking the engine for as long as it runs. -/
theorem Played.Reached.whileRunning {played : Played} {level : LevelInfo} {engine : Engine}
    {world : World} {events : List EngineEvent}
    (reached : played.Reached level (engine, world, events)) (ticks : Nat) :
    let outcome := engine.serveAll world (List.replicate ticks .tick)
    (played.whileRunning ticks).Reached level
      (outcome.1, outcome.2.1, events ++ outcome.2.2) := by
  induction ticks generalizing played engine world events with
  | zero => simpa [Played.whileRunning, Engine.serveAll] using reached
  | succ ticks inductionHypothesis =>
      obtain rfl : played.session.engine = engine := reached.engine
      obtain rfl : played.session.world = world := reached.world
      cases running : played.session.engine.isRunning with
      | false =>
          simpa [Played.whileRunning, Engine.serveAll, List.replicate_succ, running] using reached
      | true =>
          have further := inductionHypothesis (reached.tick played.session.prepare_nothing)
          simpa [Played.whileRunning, Engine.serveAll, Engine.serve, List.replicate_succ, running]
            using further

/-- A session that has played some ticks of a run of a program. The first one starts the run. -/
def playedFor (session : Session) (program : Program) (ticks : Nat) : Played :=
  ((⟨session, [], []⟩ : Played).tick (startInput program)).whileRunning ticks

/-- Playing a program is playing the ticks that a run of it can take. -/
theorem play_eq (session : Session) (program : Program) :
    play session program = playedFor session program program.tickBound := rfl

section PlayedFor

variable {session : Session} (idle : session.engine.isRunning = false) (program : Program)
include idle

/-- An idle session that is told to start a program is at the start of the run. -/
theorem prepare_startInput :
    session.prepare (startInput program) =
      { session with
        world := session.world.reset
        engine := session.engine.begun program
        lastMedal := none } := by
  have starts : session.StartsRun (startInput program) := ⟨rfl, .inl idle, rfl⟩
  obtain ⟨other, runs, prepared⟩ := Session.prepare_of_startsRun starts
  obtain rfl : program = other := Option.some.inj runs
  exact prepared

/-- What has been played is what the engine has come to from there. -/
theorem reached_playedFor (ticks : Nat) :
    (playedFor session program ticks).Reached session.level
      ((session.engine.begun program).serveAll session.world.reset
        (List.replicate (ticks + 1) .tick)) := by
  have nothing : (⟨session, [], []⟩ : Played).Reached session.level
      (session.engine, session.world, []) := ⟨rfl, rfl, rfl, fun _ _ => rfl⟩
  have started := nothing.tick (prepare_startInput idle program)
  have running : (session.engine.begun program).isRunning = true := rfl
  simpa only [playedFor, Engine.serveAll, Engine.serve, List.replicate_succ, running, if_true,
    List.nil_append] using started.whileRunning ticks

end PlayedFor

end Headless

namespace Engine

/-! ## Ticks that do not overflow -/

/-- The world comes from a fresh one by playing, and a run in progress can count what is ahead. -/
structure Safe (fresh : World) (engine : Engine) (world : World) : Prop where
  played : fresh.PlayedFrom world
  countable : engine.Countable

section Safe

variable {fresh : World} {engine : Engine} {world : World} (safe : Safe fresh engine world)
include safe

/-- A tick keeps a run safe. -/
theorem Safe.tick : Safe fresh (engine.tick world).1 (engine.tick world).2.1 := by
  refine ⟨?_, safe.countable.tick world⟩
  have ticks := engine.tick_ticks world
  generalize engine.tick world = outcome at ticks
  cases ticks with
  | rests _ => exact safe.played
  | waits _ _ => exact safe.played
  | finishes _ _ _ => exact safe.played
  | starts _ _ _ _ _ _ => exact safe.played.perform _
  | solves _ _ _ _ _ _ => exact safe.played.perform _

/-- Any number of ticks keeps a run safe. -/
theorem Safe.serveAll (ticks : Nat) :
    Safe fresh (engine.serveAll world (List.replicate ticks .tick)).1
      (engine.serveAll world (List.replicate ticks .tick)).2.1 := by
  induction ticks generalizing engine world with
  | zero => exact safe
  | succ ticks inductionHypothesis =>
      cases running : engine.isRunning with
      | false => simpa [Engine.serveAll, List.replicate_succ, running] using safe
      | true =>
          simpa [Engine.serveAll, serve, List.replicate_succ, running] using
            inductionHypothesis safe.tick

/-- On a moderate map, no tick of a safe run overflows. -/
theorem Safe.tickOverflows_eq_false (isFresh : fresh.Fresh) (moderate : fresh.grid.Moderate) :
    engine.tickOverflows world = false := by
  rw [safe.countable.tickOverflows_eq]
  cases engine.nextAction? with
  | none => rfl
  | some action => exact safe.played.performOverflows_eq_false isFresh moderate action

end Safe

end Engine

/-- A session is played without an overflow: neither the tick that starts the program nor any later
one comes to one. -/
structure Headless.Calm (session : Session) (program : Program) : Prop where
  start : session.tickOverflows (startInput program) = false
  onward : ∀ ticks,
    (playedFor session program ticks).session.tickOverflows .nothing = false

/-- A program that can be counted is played without an overflow on a moderate map. -/
theorem Headless.calm_of_moderate {fresh : World} (isFresh : fresh.Fresh)
    (moderate : fresh.grid.Moderate) {session : Session} (idle : session.engine.isRunning = false)
    (resets : session.world.reset = fresh) {program : Program}
    (countable : program.actions.length < UInt32.size) : Calm session program := by
  have safe : Engine.Safe fresh (session.engine.begun program) fresh :=
    ⟨isFresh.playedFrom, Engine.countable_begun session.engine countable⟩
  constructor
  · rw [Session.tickOverflows, prepare_startInput idle, resets]
    exact safe.tickOverflows_eq_false isFresh moderate
  · intro ticks
    have reached := reached_playedFor idle program ticks
    rw [Session.tickOverflows, Session.prepare_nothing, reached.engine, reached.world, resets]
    exact (safe.serveAll (ticks + 1)).tickOverflows_eq_false isFresh moderate

end Lamplighter
