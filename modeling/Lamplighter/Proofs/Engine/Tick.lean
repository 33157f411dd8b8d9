import Lamplighter.Proofs.World.Perform

/-!
# What a tick of the engine can do

A tick lets time pass, starts the next action, starts the action that lights the last lamp, or
notices that no action is left. `Engine.Ticks` has one constructor for each, and every fact about
runs is proved from it and not from the definition of `Engine.tick`.
-/

namespace Lamplighter

/-- No movement is over before it has begun, and none takes longer than twenty ticks. -/
theorem Movement.duration_bounds (movement : Movement) :
    0 < movement.duration.toNat ∧ movement.duration.toNat ≤ 20 := by
  cases movement <;> decide

namespace Engine

/-! ## Playing an animation touches nothing but the clock -/

section Play

variable (engine : Engine)

@[simp] theorem play_mode : engine.play.mode = engine.mode := by
  unfold play
  split <;> rfl

@[simp] theorem play_program : engine.play.program = engine.program := by
  unfold play
  split <;> rfl

@[simp] theorem play_cursor : engine.play.cursor = engine.cursor := by
  unfold play
  split <;> rfl

@[simp] theorem play_animation : engine.play.animation = engine.animation := by
  unfold play
  split <;> rfl

@[simp] theorem play_executed : engine.play.executed = engine.executed := by
  unfold play
  split <;> rfl

@[simp] theorem play_isRunning : engine.play.isRunning = engine.isRunning := by
  simp [isRunning]

end Play

/-- With an animation that has been played to its end, playing changes nothing. -/
theorem play_of_isReady {engine : Engine} (ready : engine.isReady = true) :
    engine.play = engine := by
  simp [play, ready]

/-! ## Programs and starts -/

/-- An engine that does not run is idle. -/
theorem mode_of_idle {engine : Engine} (idle : engine.isRunning = false) :
    engine.mode = .idle := by
  cases mode : engine.mode with
  | idle => rfl
  | running => simp [isRunning, mode] at idle

/-- A running engine takes no program. -/
theorem queue_of_isRunning {engine : Engine} (running : engine.isRunning = true)
    (program : Program) : engine.queue program = engine := by
  simp only [queue, running, if_true]

/-- An idle engine takes a program, and stands at its start. -/
theorem queue_of_idle {engine : Engine} (idle : engine.isRunning = false) (program : Program) :
    engine.queue program = { engine.rewind program with program := some program } := by
  simp only [queue, idle, Bool.false_eq_true, if_false]

/-- A running engine is not started again. -/
theorem execute_of_isRunning {engine : Engine} (running : engine.isRunning = true) :
    engine.execute = engine := by
  simp only [execute, running, if_true]

/-! ## Starting a run -/

/-- The engine at the start of a run of a program: nothing of an earlier run is left. -/
def begun (engine : Engine) (program : Program) : Engine :=
  { engine.rewind program with mode := .running, program := some program }

/-- An idle engine runs the program that it is given. -/
theorem execute_queue {engine : Engine} (idle : engine.isRunning = false) (program : Program) :
    (engine.queue program).execute = engine.begun program := by
  have stillIdle : ({ engine.rewind program with program := some program } : Engine).isRunning =
      false := idle
  simp only [queue_of_idle idle, execute, stillIdle, Bool.false_eq_true, if_false]
  rfl

/-- An idle engine without a cursor runs its program from the start. -/
theorem execute_of_program {engine : Engine} {program : Program}
    (idle : engine.isRunning = false) (fresh : engine.cursor = none)
    (queued : engine.program = some program) : engine.execute = engine.begun program := by
  simp only [execute, idle, Bool.false_eq_true, if_false, queued, fresh, begun, rewind]

/-- Without a program nothing is started. -/
theorem execute_of_no_program {engine : Engine} (empty : engine.program = none) :
    engine.execute = engine := by
  simp only [execute, empty]
  split <;> rfl

/-- An engine whose run has been forgotten runs its program from the start, if it has one. -/
theorem execute_halt (engine : Engine) :
    engine.halt.execute =
      match engine.program with
      | some program => engine.begun program
      | none => engine.halt := by
  cases runs : engine.program with
  | none => exact execute_of_no_program runs
  | some program => exact execute_of_program rfl rfl runs

/-! ## Ticks -/

/-- The engine after the next action has been started. -/
def started (engine : Engine) (cursor : Cursor) (animation : Animation) : Engine :=
  { engine with
    cursor := some cursor
    animation := some animation
    elapsed := 0
    executed := engine.executed + 1 }

/-- The engine after its run has ended. -/
def ended (engine : Engine) : Engine := { engine with mode := .idle, cursor := none }

section Started

variable (engine : Engine) (cursor : Cursor) (animation : Animation)

@[simp] theorem started_isRunning :
    (engine.started cursor animation).isRunning = engine.isRunning := rfl

@[simp] theorem started_program :
    (engine.started cursor animation).program = engine.program := rfl

@[simp] theorem started_cursor : (engine.started cursor animation).cursor = some cursor := rfl

@[simp] theorem started_executed :
    (engine.started cursor animation).executed = engine.executed + 1 := rfl

end Started

@[simp] theorem ended_isRunning (engine : Engine) : engine.ended.isRunning = false := rfl

/-- What a tick makes of an engine and a world, and what it tells. -/
inductive Ticks (engine : Engine) (world : World) : Engine × World × List EngineEvent → Prop where
  /-- No program is being run. -/
  | rests (idle : engine.isRunning = false) : Ticks engine world (engine.play, world, [])
  /-- The last animation is still being played. -/
  | waits (running : engine.isRunning = true) (unready : engine.isReady = false) :
      Ticks engine world (engine.play, world, [])
  /-- No action is left. -/
  | finishes (running : engine.isRunning = true) (ready : engine.isReady = true)
      (nothing : ∀ program cursor, engine.program = some program → engine.cursor = some cursor →
        (cursor.advance program).1 = none) :
      Ticks engine world (engine.ended, world, [.finished engine.executed])
  /-- The next action starts. -/
  | starts {program : Program} {cursor next : Cursor} {action : Action}
      (running : engine.isRunning = true) (ready : engine.isReady = true)
      (runs : engine.program = some program) (isCursor : engine.cursor = some cursor)
      (taken : cursor.advance program = (some action, next))
      (unsolved : (world.perform action).1.isSolved = false) :
      Ticks engine world
        ((engine.started next (world.perform action).2).play, (world.perform action).1,
          [.started action (world.perform action).2])
  /-- The next action starts, and lights the last lamp. -/
  | solves {program : Program} {cursor next : Cursor} {action : Action}
      (running : engine.isRunning = true) (ready : engine.isReady = true)
      (runs : engine.program = some program) (isCursor : engine.cursor = some cursor)
      (taken : cursor.advance program = (some action, next))
      (solved : (world.perform action).1.isSolved = true) :
      Ticks engine world
        ((engine.started next (world.perform action).2).ended.play, (world.perform action).1,
          [.started action (world.perform action).2, .solved (engine.executed + 1)])

/-- Where there is no action to take, the run ends. -/
theorem proceed_of_nothing {engine : Engine} (world : World)
    (nothing : ∀ program cursor, engine.program = some program → engine.cursor = some cursor →
      (cursor.advance program).1 = none) :
    engine.proceed world = (engine.ended, world, [.finished engine.executed]) := by
  cases isCursor : engine.cursor with
  | none => simp [proceed, isCursor, ended]
  | some cursor =>
    cases runs : engine.program with
    | none => simp [proceed, isCursor, runs, ended]
    | some program => simp [proceed, isCursor, runs, nothing program cursor runs isCursor, ended]

/-- Where there is an action to take, it is performed. -/
theorem proceed_of_action {engine : Engine} (world : World) {program : Program}
    {cursor next : Cursor} {action : Action} (runs : engine.program = some program)
    (isCursor : engine.cursor = some cursor)
    (taken : cursor.advance program = (some action, next)) :
    engine.proceed world =
      if (world.perform action).1.isSolved then
        ((engine.started next (world.perform action).2).ended, (world.perform action).1,
          [.started action (world.perform action).2, .solved (engine.executed + 1)])
      else
        (engine.started next (world.perform action).2, (world.perform action).1,
          [.started action (world.perform action).2]) := by
  simp [proceed, runs, isCursor, taken, started, ended]

/-- Every tick does one of these things. -/
theorem tick_ticks (engine : Engine) (world : World) :
    Ticks engine world (engine.tick world) := by
  cases running : engine.isRunning with
  | false => simpa [tick, running] using Ticks.rests running
  | true =>
    cases ready : engine.isReady with
    | false => simpa [tick, running, ready] using Ticks.waits running ready
    | true =>
      by_cases nothing : ∀ program cursor, engine.program = some program →
          engine.cursor = some cursor → (cursor.advance program).1 = none
      · have finish : engine.ended.play = engine.ended := play_of_isReady ready
        simpa [tick, running, ready, proceed_of_nothing world nothing, finish] using
          Ticks.finishes running ready nothing
      · obtain ⟨program, cursor, runs, isCursor, found⟩ :
            ∃ program cursor, engine.program = some program ∧ engine.cursor = some cursor ∧
              (cursor.advance program).1 ≠ none := by
          simpa using nothing
        obtain ⟨action, isAction⟩ := Option.ne_none_iff_exists'.1 found
        have taken : cursor.advance program = (some action, (cursor.advance program).2) := by
          rw [← isAction]
        cases solved : (world.perform action).1.isSolved with
        | false =>
            simpa [tick, running, ready, proceed_of_action world runs isCursor taken, solved] using
              Ticks.starts running ready runs isCursor taken solved
        | true =>
            simpa [tick, running, ready, proceed_of_action world runs isCursor taken, solved] using
              Ticks.solves running ready runs isCursor taken solved

end Engine

end Lamplighter
