import Lamplighter.Proofs.Engine.Tick
import Lamplighter.Session

/-!
# What a tick of a session can do

First the session takes up what the player did: the run goes on or the engine stays as it is, a run
starts from the spawn, or the engine is idle and shows nothing. Then the engine ticks, and what it
tells is passed on. `Session.Prepares` and `Session.Moves` have one constructor for each of these,
and facts about sessions are proved from them.
-/

namespace Lamplighter.Session

/-! ## What the player did -/

/-- The input starts a run: the run button is pressed while no run is in progress or the stop button
is pressed too, and there is a program to run. -/
def StartsRun (session : Session) (input : TickInput) : Prop :=
  input.run = true ∧ (session.engine.isRunning = false ∨ input.stop = true) ∧
    (input.program.or session.engine.program).isSome = true

instance (session : Session) (input : TickInput) : Decidable (session.StartsRun input) :=
  inferInstanceAs (Decidable (_ ∧ _))

section Steer

variable (session : Session) (input : TickInput)

@[simp] theorem steer_world : (session.steer input).world = session.world := rfl

@[simp] theorem steer_isRunning :
    (session.steer input).engine.isRunning = session.engine.isRunning := by
  simp only [steer]
  split <;> rfl

@[simp] theorem steer_program :
    (session.steer input).engine.program = session.engine.program := by
  simp only [steer]
  split <;> rfl

@[simp] theorem steer_speed :
    (session.steer input).engine.speed =
      if input.cycleSpeed then session.engine.speed.next else session.engine.speed := by
  simp only [steer]
  split <;> rfl

@[simp] theorem steer_executed :
    (session.steer input).engine.executed = session.engine.executed := by
  simp only [steer]
  split <;> rfl

end Steer

/-- What a session becomes when it has taken up what the player did. -/
inductive Prepares (session : Session) (input : TickInput) : Session → Prop where
  /-- Neither the run nor the stop button is pressed, and no program is taken. -/
  | keeps (noRun : input.run = false) (noStop : input.stop = false)
      (untaken : session.engine.isRunning = true ∨ input.program = none) :
      Prepares session input (session.steer input)
  /-- A run starts from the spawn. -/
  | begins {program : Program} (starts : session.StartsRun input)
      (runs : input.program.or session.engine.program = some program) :
      Prepares session input
        { session.steer input with
          world := session.world.reset
          engine := (session.steer input).engine.begun program
          lastMedal := none }
  /-- The engine is idle and shows no animation. The world may have been put back. -/
  | rests {world : World} {engine : Engine} {lastMedal : Option Medal}
      (notStarts : ¬ session.StartsRun input) (idle : engine.isRunning = false)
      (still : engine.animation = none)
      (placed : world = session.world ∨ world = session.world.reset)
      (medal : lastMedal = session.lastMedal ∨ lastMedal = none) :
      Prepares session input { session.steer input with world, engine, lastMedal }

/-! ### The stop button and the program -/

/-- The engine after it has taken up the stop button and the program of an input. -/
def readied (engine : Engine) (input : TickInput) : Engine :=
  let halted := if input.stop then engine.halt else engine
  input.program.elim halted halted.queue

/-- What the stop button and a program do to a session. -/
theorem supply_halt (session : Session) (input : TickInput) :
    (session.halt input).supply input =
      { session with
        world := if input.stop then session.world.reset else session.world
        engine := readied session.engine input } := by
  unfold halt supply readied
  cases input.stop <;> cases input.program <;> rfl

/-- A running engine takes no program. -/
theorem readied_of_running {engine : Engine} {input : TickInput}
    (running : engine.isRunning = true) (noStop : input.stop = false) :
    readied engine input = engine := by
  unfold readied
  cases input.program with
  | none => simp [noStop]
  | some program => simp [noStop, Engine.queue_of_isRunning running]

section Readied

variable {engine : Engine} {input : TickInput}
  (halted : engine.isRunning = false ∨ input.stop = true)
include halted

/-- Where a run can be started, the engine is idle once the stop button is taken up. -/
theorem isRunning_of_halted :
    (if input.stop then engine.halt else engine).isRunning = false := by
  split
  next => rfl
  next notStopped => exact halted.resolve_right notStopped

/-- Such an engine stands at the start of the program that it is given, and shows nothing. -/
theorem readied_of_given {program : Program} (given : input.program = some program) :
    readied engine input =
      { engine.halt.rewind program with program := some program } := by
  simp only [readied, given, Option.elim_some, Engine.queue_of_idle (isRunning_of_halted halted)]
  split
  next => rfl
  next notStopped =>
    have idle := Engine.mode_of_idle (halted.resolve_right notStopped)
    simp only [Engine.rewind, Engine.halt, idle]

/-- It stays idle. -/
theorem readied_isRunning : (readied engine input).isRunning = false := by
  cases given : input.program with
  | none =>
      simp only [readied, given, Option.elim_none]
      exact isRunning_of_halted halted
  | some program =>
      rw [readied_of_given halted given]
      rfl

/-- It has the program that it was given last. -/
theorem readied_program : (readied engine input).program = input.program.or engine.program := by
  cases given : input.program with
  | none =>
      simp only [readied, given, Option.elim_none, Option.none_or]
      split <;> rfl
  | some program => simp only [readied_of_given halted given, Option.some_or]

/-- What it did before makes no difference to a run that begins then. -/
theorem readied_begun (program : Program) :
    (readied engine input).begun program = engine.begun program := by
  cases given : input.program with
  | none =>
      simp only [readied, given, Option.elim_none]
      split <;> rfl
  | some other =>
      rw [readied_of_given halted given]
      rfl

/-- If it has been stopped or given a program, it shows nothing. -/
theorem readied_animation (changed : input.stop = true ∨ input.program ≠ none) :
    (readied engine input).animation = none := by
  cases given : input.program with
  | none =>
      have stopped : input.stop = true := changed.resolve_right fun some => some given
      simp [readied, given, stopped, Engine.halt]
  | some program =>
      rw [readied_of_given halted given]
      rfl

end Readied

/-! ### The run button -/

/-- Pressing the run button on an idle session starts its program from the spawn. -/
theorem toggle_of_program {session : Session} {input : TickInput} {program : Program}
    (pressed : input.run = true) (idle : session.engine.isRunning = false)
    (runs : session.engine.program = some program) :
    session.toggle input =
      { session with
        world := session.world.reset
        engine := session.engine.begun program
        lastMedal := none } := by
  simp [toggle, pressed, idle, reset, Engine.reset, Engine.execute_halt, runs]

/-- Without a program it only puts the world back. -/
theorem toggle_of_no_program {session : Session} {input : TickInput} (pressed : input.run = true)
    (idle : session.engine.isRunning = false) (empty : session.engine.program = none) :
    session.toggle input =
      { session with
        world := session.world.reset
        engine := session.engine.halt
        lastMedal := none } := by
  simp [toggle, pressed, idle, reset, Engine.reset, Engine.execute_halt, empty]

/-- Where a run can be started, the run button puts the world back and clears the medal. The engine
then stands at the start of the program, or has forgotten its run if there is no program. -/
theorem prepare_of_run {session : Session} {input : TickInput} (pressed : input.run = true)
    (halted : session.engine.isRunning = false ∨ input.stop = true) :
    session.prepare input =
      { session.steer input with
        world := session.world.reset
        engine :=
          match input.program.or session.engine.program with
          | some program => (session.steer input).engine.begun program
          | none => (session.steer input).engine.halt
        lastMedal := none } := by
  have steered : (session.steer input).engine.isRunning = false ∨ input.stop = true := by
    rwa [steer_isRunning]
  have idle := readied_isRunning steered
  have program := readied_program steered
  rw [steer_program] at program
  rw [prepare, supply_halt]
  cases runs : input.program.or session.engine.program with
  | some found =>
      rw [toggle_of_program pressed idle (program.trans runs)]
      simp only [readied_begun steered]
      cases input.stop <;> rfl
  | none =>
      have untaken : input.program = none := (Option.or_eq_none_iff.1 runs).1
      rw [toggle_of_no_program pressed idle (program.trans runs)]
      simp only [readied, untaken, Option.elim_none]
      cases input.stop <;> rfl

/-- The player lets a run go on: neither the run nor the stop button is pressed. -/
def LetsRun (input : TickInput) : Prop := input.run = false ∧ input.stop = false

/-- A run that the player lets go on takes no program. -/
theorem prepare_of_letsRun {session : Session} {input : TickInput}
    (running : session.engine.isRunning = true) (letsRun : LetsRun input) :
    session.prepare input = session.steer input := by
  obtain ⟨noRun, noStop⟩ := letsRun
  have steered : (session.steer input).engine.isRunning = true := by rwa [steer_isRunning]
  rw [prepare, supply_halt, readied_of_running steered noStop]
  simp only [toggle, noRun, noStop, Bool.false_eq_true, if_false]

/-- Whatever the player did, it is one of these things. -/
theorem prepares (session : Session) (input : TickInput) :
    Prepares session input (session.prepare input) := by
  have ready := supply_halt (session.steer input) input
  by_cases halted : session.engine.isRunning = false ∨ input.stop = true
  · have steered : (session.steer input).engine.isRunning = false ∨ input.stop = true := by
      rwa [steer_isRunning]
    have idle := readied_isRunning steered
    cases pressed : input.run with
    | false =>
        have notStarts : ¬ session.StartsRun input := by simp [StartsRun, pressed]
        have same : session.prepare input = ((session.steer input).halt input).supply input := by
          simp [prepare, toggle, pressed]
        rw [same, ready]
        by_cases changed : input.stop = true ∨ input.program ≠ none
        · exact .rests notStarts idle (readied_animation steered changed)
            (by cases input.stop <;> simp) (.inl rfl)
        · obtain ⟨noStop, untaken⟩ : input.stop = false ∧ input.program = none := by
            simpa using changed
          simp only [readied, noStop, untaken, Bool.false_eq_true, if_false, Option.elim_none]
          exact .keeps pressed noStop (.inr untaken)
    | true =>
        rw [prepare_of_run pressed halted]
        cases runs : input.program.or session.engine.program with
        | none =>
            have notStarts : ¬ session.StartsRun input := by simp [StartsRun, runs]
            exact .rests notStarts rfl rfl (.inr rfl) (.inr rfl)
        | some found =>
            have starts : session.StartsRun input := ⟨pressed, halted, by simp [runs]⟩
            exact .begins starts runs
  · obtain ⟨running, noStop⟩ : session.engine.isRunning = true ∧ input.stop = false := by
      simpa using halted
    cases pressed : input.run with
    | false =>
        rw [prepare_of_letsRun running ⟨pressed, noStop⟩]
        exact .keeps pressed noStop (.inl running)
    | true =>
        have notStarts : ¬ session.StartsRun input := fun starts => halted starts.2.1
        have steered : (session.steer input).engine.isRunning = true := by rwa [steer_isRunning]
        rw [prepare, ready, readied_of_running steered noStop]
        simp only [noStop, Bool.false_eq_true, if_false, toggle, pressed, if_true, steered, reset,
          Engine.reset]
        exact .rests notStarts rfl rfl (.inr rfl) (.inl rfl)

/-- What the player did changes nothing about the level. -/
theorem prepare_level (session : Session) (input : TickInput) :
    (session.prepare input).level = session.level := by
  have prepares := session.prepares input
  generalize session.prepare input = prepared at prepares
  cases prepares <;> rfl

/-- What the player did changes nothing in the book. -/
theorem prepare_book (session : Session) (input : TickInput) :
    (session.prepare input).book = session.book := by
  have prepares := session.prepares input
  generalize session.prepare input = prepared at prepares
  cases prepares <;> rfl

/-- An input that starts a run puts the world back and the engine at the start of the program. -/
theorem prepare_of_startsRun {session : Session} {input : TickInput}
    (starts : session.StartsRun input) :
    ∃ program, input.program.or session.engine.program = some program ∧
      session.prepare input =
        { session.steer input with
          world := session.world.reset
          engine := (session.steer input).engine.begun program
          lastMedal := none } := by
  have prepares := session.prepares input
  generalize session.prepare input = prepared at prepares
  cases prepares with
  | keeps noRun _ _ => exact absurd starts.1 (by simp [noRun])
  | begins _ runs => exact ⟨_, runs, rfl⟩
  | rests notStarts _ _ _ _ => exact absurd starts notStarts

/-- A run that is in progress and has not just started has gone on. -/
theorem prepare_of_not_startsRun {session : Session} {input : TickInput}
    (notStarts : ¬ session.StartsRun input)
    (running : (session.prepare input).engine.isRunning = true) :
    session.engine.isRunning = true ∧ session.prepare input = session.steer input := by
  have prepares := session.prepares input
  generalize session.prepare input = prepared at prepares running
  cases prepares with
  | keeps _ _ _ => exact ⟨by simpa using running, rfl⟩
  | begins starts _ => exact absurd starts notStarts
  | rests _ idle _ _ _ => simp [idle] at running

/-! ## What the engine does -/

/-- What is told when an action starts. -/
def announce (action : Action) (animation : Animation) : List GameEvent :=
  .instructionStarted action animation ::
    if animation.movement = .blocked then [.blocked action] else []

/-- What a tick makes of a session that has taken up what the player did, and what it tells. -/
inductive Moves (prepared : Session) : Session × List GameEvent → Prop where
  /-- No program is being run. -/
  | rests (idle : prepared.engine.isRunning = false) :
      Moves prepared ({ prepared with engine := prepared.engine.play }, [.tick])
  /-- The last animation is still being played. -/
  | waits (running : prepared.engine.isRunning = true) (unready : prepared.engine.isReady = false) :
      Moves prepared ({ prepared with engine := prepared.engine.play }, [.tick])
  /-- No action is left. -/
  | finishes (running : prepared.engine.isRunning = true)
      (ready : prepared.engine.isReady = true)
      (nothing : ∀ program cursor, prepared.engine.program = some program →
        prepared.engine.cursor = some cursor → (cursor.advance program).1 = none) :
      Moves prepared
        ({ prepared with engine := prepared.engine.ended },
          [.programFinished prepared.engine.executed, .tick])
  /-- The next action starts. -/
  | starts {program : Program} {cursor next : Cursor} {action : Action}
      (running : prepared.engine.isRunning = true) (ready : prepared.engine.isReady = true)
      (runs : prepared.engine.program = some program)
      (isCursor : prepared.engine.cursor = some cursor)
      (taken : cursor.advance program = (some action, next))
      (unsolved : (prepared.world.perform action).1.isSolved = false) :
      Moves prepared
        ({ prepared with
            world := (prepared.world.perform action).1
            engine := (prepared.engine.started next (prepared.world.perform action).2).play },
          announce action (prepared.world.perform action).2 ++ [.tick])
  /-- The next action starts, and lights the last lamp. -/
  | solves {program : Program} {cursor next : Cursor} {action : Action} {medal : Medal}
      (running : prepared.engine.isRunning = true) (ready : prepared.engine.isReady = true)
      (runs : prepared.engine.program = some program)
      (isCursor : prepared.engine.cursor = some cursor)
      (taken : cursor.advance program = (some action, next))
      (solved : (prepared.world.perform action).1.isSolved = true)
      (awarded : medal = prepared.level.medals.award (prepared.engine.executed + 1)) :
      Moves prepared
        ({ prepared with
            world := (prepared.world.perform action).1
            engine := (prepared.engine.started next (prepared.world.perform action).2).ended.play
            book := prepared.book.record prepared.level.id ⟨medal, prepared.engine.executed + 1⟩
            lastMedal := some medal },
          announce action (prepared.world.perform action).2 ++
            [.mapSolved (prepared.engine.executed + 1) medal, .tick])

/-- A tick of a session is what it makes of what the player did. -/
theorem tick_moves (session : Session) (input : TickInput) :
    Moves (session.prepare input) (session.tick input) := by
  have ticks := (session.prepare input).engine.tick_ticks (session.prepare input).world
  simp only [tick]
  generalize (session.prepare input).engine.tick (session.prepare input).world = outcome at ticks ⊢
  cases ticks with
  | rests idle => exact .rests idle
  | waits running unready => exact .waits running unready
  | finishes running ready nothing => exact .finishes running ready nothing
  | starts running ready runs isCursor taken unsolved =>
      simpa [takeAll, take, announce] using Moves.starts running ready runs isCursor taken unsolved
  | solves running ready runs isCursor taken solved =>
      simpa [takeAll, take, announce] using
        Moves.solves running ready runs isCursor taken solved rfl

/-- What the engine does changes nothing about the level. -/
theorem Moves.level_eq {prepared : Session} {outcome : Session × List GameEvent}
    (moves : Moves prepared outcome) : outcome.1.level = prepared.level := by
  cases moves <;> rfl

end Lamplighter.Session
