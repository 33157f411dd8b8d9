import Lamplighter.Proofs.Cursor.Unrolling
import Lamplighter.Proofs.Engine.Tick
import Lamplighter.Proofs.World.PlainRun

/-!
# A run of the engine is a plain run of the unrolled program

`Engine.Underway` relates an engine in the middle of a run to the actions that it has still to take.
Each call that the engine can be given in a run either keeps this relation, and then plays out the
rest, or ends the run (`Engine.serveAll_begun`). Speeds, programs and starts that are given on the
way only change how long the run takes, and `Program.tickBound` bounds that for every way of giving
them.
-/

namespace Lamplighter

namespace Engine

/-! ## Calls -/

/-- What can be done to an engine during a run. -/
inductive Call where
  | tick
  | setSpeed (speed : Speed)
  | cycleSpeed
  | queue (program : Program)
  | execute
deriving DecidableEq

/-- The engine and the world after a call, with what the call tells. -/
def serve (engine : Engine) (world : World) : Call → Engine × World × List EngineEvent
  | .tick => engine.tick world
  | .setSpeed speed => (engine.setSpeed speed, world, [])
  | .cycleSpeed => (engine.cycleSpeed, world, [])
  | .queue program => (engine.queue program, world, [])
  | .execute => (engine.execute, world, [])

/-- Make calls one after the other for as long as the engine runs, and collect what they tell. -/
def serveAll (engine : Engine) (world : World) : List Call → Engine × World × List EngineEvent
  | [] => (engine, world, [])
  | call :: rest =>
      if engine.isRunning then
        let (next, after, events) := engine.serve world call
        let (last, final, further) := next.serveAll after rest
        (last, final, events ++ further)
      else
        (engine, world, [])

/-! ## Engines in a run -/

/-- The engine runs a program and has the given actions of it still to take. -/
structure Underway (engine : Engine) (program : Program) (ahead : List Action) : Prop where
  running : engine.isRunning = true
  runs : engine.program = some program
  stands : ∃ cursor, engine.cursor = some cursor ∧ cursor.StandsBefore program ahead

/-- What an engine in a run takes is the first of the actions ahead, and its cursor then stands in
front of the others. -/
theorem Underway.taken {engine : Engine} {program other : Program} {ahead : List Action}
    {cursor next : Cursor} {action : Action} (underway : engine.Underway program ahead)
    (runs : engine.program = some other) (isCursor : engine.cursor = some cursor)
    (taken : cursor.advance other = (some action, next)) :
    ∃ rest, ahead = action :: rest ∧ next.StandsBefore program rest := by
  obtain ⟨standing, found, stands⟩ := underway.stands
  obtain rfl : program = other := Option.some.inj (underway.runs.symm.trans runs)
  obtain rfl : standing = cursor := Option.some.inj (found.symm.trans isCursor)
  cases ahead with
  | nil => simp [stands.advance_nil] at taken
  | cons first rest =>
      obtain ⟨behind, same, standsBehind⟩ := stands.advance_cons
      obtain ⟨rfl, rfl⟩ : first = action ∧ behind = next := by simpa [taken, eq_comm] using same
      exact ⟨rest, rfl, standsBehind⟩

/-- A run that has just begun has all actions of its program ahead. -/
theorem underway_begun (engine : Engine) (program : Program) :
    (engine.begun program).Underway program program.actions where
  running := rfl
  runs := rfl
  stands := ⟨.start program, rfl, Cursor.start_standsBefore program⟩

/-- The ticks that the current animation takes at normal speed before it is over. -/
def pause (engine : Engine) : Nat :=
  match engine.animation with
  | some animation => animation.duration.toNat - engine.elapsed
  | none => 0

/-- Each tick brings an animation that is not over nearer to its end, at every speed. -/
theorem pause_play_lt {engine : Engine} (unready : engine.isReady = false) :
    engine.play.pause < engine.pause := by
  have positive : 0 < engine.speed.multiplier := by cases engine.speed <;> decide
  simp only [play, unready, Bool.false_eq_true, if_false]
  unfold isReady at unready
  unfold pause
  cases shown : engine.animation with
  | none => simp [shown] at unready
  | some animation =>
      simp [shown] at unready
      simp
      omega

/-- An animation that has just started takes less than twenty further ticks. -/
theorem pause_started_play (engine : Engine) (world : World) (cursor : Cursor) (action : Action) :
    (engine.started cursor (world.perform action).2).play.pause < 20 := by
  have usual := world.duration_of_perform action
  have bounds := Movement.duration_bounds (world.perform action).2.movement
  have begun : (engine.started cursor (world.perform action).2).pause ≤ 20 := by
    simp only [started, pause, usual]
    omega
  have unready : (engine.started cursor (world.perform action).2).isReady = false := by
    simp [started, isReady, usual]
    omega
  exact Nat.lt_of_lt_of_le (pause_play_lt unready) begun

/-- The ticks in which a run with the given actions ahead comes to its end. -/
def ticksLeft (engine : Engine) (ahead : List Action) : Nat :=
  20 * ahead.length + engine.pause + 1

/-- At its start a run may take as many ticks as its program. -/
theorem ticksLeft_begun (engine : Engine) (program : Program) :
    (engine.begun program).ticksLeft program.actions = program.tickBound := by
  simp [ticksLeft, pause, begun, rewind, Program.tickBound, Program.length_actions]

/-- Where some calls, with a number of ticks among them, bring a run that has actions ahead: to its
end, when everything has been told, or nearer to it, when the rest remains to be told. -/
inductive Progress (engine : Engine) (world : World) (program : Program) (ahead : List Action)
    (ticks : Nat) : Engine × World × List EngineEvent → Prop where
  | ends {last : Engine} {final : World} {events : List EngineEvent}
      (idle : last.isRunning = false)
      (told : world.playOut engine.executed ahead = (final, events)) :
      Progress engine world program ahead ticks (last, final, events)
  | goesOn {next : Engine} {after : World} {events : List EngineEvent} {left : List Action}
      (underway : next.Underway program left)
      (nearer : next.ticksLeft left + ticks ≤ engine.ticksLeft ahead)
      (told : world.playOut engine.executed ahead =
        ((after.playOut next.executed left).1, events ++ (after.playOut next.executed left).2)) :
      Progress engine world program ahead ticks (next, after, events)

/-- Where no action is found, none is ahead. -/
theorem Underway.ahead_eq_nil {engine : Engine} {program : Program} {ahead : List Action}
    (underway : engine.Underway program ahead)
    (nothing : ∀ program cursor, engine.program = some program → engine.cursor = some cursor →
      (cursor.advance program).1 = none) : ahead = [] := by
  obtain ⟨cursor, isCursor, stands⟩ := underway.stands
  have noAction := nothing program cursor underway.runs isCursor
  cases ahead with
  | nil => rfl
  | cons action rest =>
      obtain ⟨next, taken, _⟩ := stands.advance_cons
      simp [taken] at noAction

/-- Playing an animation that is not over brings a run nearer to its end, and takes no action. -/
theorem Underway.play {engine : Engine} {program : Program} {ahead : List Action}
    (underway : engine.Underway program ahead) (unready : engine.isReady = false) :
    engine.play.Underway program ahead ∧
      engine.play.ticksLeft ahead + 1 ≤ engine.ticksLeft ahead := by
  obtain ⟨cursor, isCursor, stands⟩ := underway.stands
  refine ⟨⟨by simpa using underway.running, by simpa using underway.runs, cursor,
    by simpa using isCursor, stands⟩, ?_⟩
  have nearer := pause_play_lt unready
  simp only [ticksLeft]
  omega

/-- Starting the next action brings a run nearer to its end, and takes this action. -/
theorem Underway.start {engine : Engine} {program other : Program} {ahead : List Action}
    {cursor next : Cursor} {action : Action} (underway : engine.Underway program ahead)
    (runs : engine.program = some other) (isCursor : engine.cursor = some cursor)
    (taken : cursor.advance other = (some action, next)) (world : World) :
    ∃ rest, ahead = action :: rest ∧
      (engine.started next (world.perform action).2).play.Underway program rest ∧
      (engine.started next (world.perform action).2).play.ticksLeft rest + 1 ≤
        engine.ticksLeft ahead := by
  obtain ⟨rest, rfl, standsNext⟩ := underway.taken runs isCursor taken
  have soon := pause_started_play engine world next action
  refine ⟨rest, rfl, ⟨by simpa using underway.running, by simpa using underway.runs, next,
    by simp, standsNext⟩, ?_⟩
  simp only [ticksLeft, List.length_cons]
  omega

/-- A tick brings a run nearer to its end. -/
theorem Underway.tick {engine : Engine} {program : Program} {ahead : List Action}
    (underway : engine.Underway program ahead) (world : World) :
    Progress engine world program ahead 1 (engine.tick world) := by
  have ticks := engine.tick_ticks world
  generalize engine.tick world = outcome at ticks
  cases ticks with
  | rests idle => simp [underway.running] at idle
  | waits running unready =>
      obtain ⟨stillUnderway, nearer⟩ := underway.play unready
      exact .goesOn stillUnderway nearer (by simp)
  | finishes running ready nothing =>
      obtain rfl := underway.ahead_eq_nil nothing
      exact .ends rfl rfl
  | starts running ready runs isCursor taken unsolved =>
      obtain ⟨rest, rfl, stillUnderway, nearer⟩ :=
        underway.start runs isCursor taken world
      exact .goesOn stillUnderway nearer (by simp [World.playOut, unsolved])
  | solves running ready runs isCursor taken solved =>
      obtain ⟨rest, rfl, _⟩ := underway.taken runs isCursor taken
      exact .ends (by simp) (by simp [World.playOut, solved])

/-- No call takes a run farther away from its end, and a tick brings it nearer. -/
theorem Underway.serve {engine : Engine} {program : Program} {ahead : List Action}
    (underway : engine.Underway program ahead) (world : World) (call : Call) :
    Progress engine world program ahead ([call].count .tick) (engine.serve world call) := by
  cases call with
  | tick => exact underway.tick world
  | setSpeed speed =>
      exact .goesOn ⟨underway.running, underway.runs, underway.stands⟩ (Nat.le_refl _) rfl
  | cycleSpeed =>
      exact .goesOn ⟨underway.running, underway.runs, underway.stands⟩ (Nat.le_refl _) rfl
  | queue other =>
      rw [Engine.serve, queue_of_isRunning underway.running]
      exact .goesOn underway (Nat.le_refl _) rfl
  | execute =>
      rw [Engine.serve, execute_of_isRunning underway.running]
      exact .goesOn underway (Nat.le_refl _) rfl

/-- Any calls bring a run nearer to its end by as many ticks as there are among them. -/
theorem Underway.serveAll {engine : Engine} {program : Program} {ahead : List Action}
    (underway : engine.Underway program ahead) (world : World) (calls : List Call) :
    Progress engine world program ahead (calls.count .tick) (engine.serveAll world calls) := by
  induction calls generalizing engine world ahead with
  | nil => exact .goesOn underway (Nat.le_refl _) rfl
  | cons call rest inductionHypothesis =>
      have progress := underway.serve world call
      simp only [Engine.serveAll, underway.running, if_true]
      generalize engine.serve world call = outcome at progress
      cases progress with
      | @ends last final events idle told =>
          have stays : last.serveAll final rest = (last, final, []) := by
            cases rest <;> simp [Engine.serveAll, idle]
          rw [stays]
          exact .ends idle (by simpa using told)
      | @goesOn next after events left stillUnderway nearer told =>
          have further := inductionHypothesis stillUnderway after
          generalize next.serveAll after rest = outcome at further
          cases further with
          | ends idle toldRest => exact .ends idle (by rw [told, toldRest])
          | goesOn underwayLast nearerStill toldRest =>
              refine .goesOn underwayLast ?_ ?_
              · have split : ([call] ++ rest).count .tick = [call].count .tick + rest.count .tick :=
                  List.count_append
                rw [List.singleton_append] at split
                dsimp only
                omega
              · rw [told, toldRest, List.append_assoc]

/-! ## Whole runs -/

/-- A run is determined by the world in which it starts and by the actions of its program. However
calls are made during it, it tells no more than these actions tell when they are taken one after the
other, and it ends within a bounded number of ticks; then it has told all of this, and leaves the
world that they leave. -/
theorem serveAll_begun (engine : Engine) (world : World) (program : Program) (calls : List Call) :
    let outcome := (engine.begun program).serveAll world calls
    outcome.2.2 <+: (world.playOut 0 program.actions).2 ∧
      (program.tickBound ≤ calls.count .tick → outcome.1.isRunning = false) ∧
      (outcome.1.isRunning = false → world.playOut 0 program.actions = outcome.2) := by
  have progress := (underway_begun engine program).serveAll world calls
  have bound := engine.ticksLeft_begun program
  have sameCount : (engine.begun program).executed = 0 := rfl
  generalize (engine.begun program).serveAll world calls = outcome at progress ⊢
  cases progress with
  | ends idle told =>
      rw [sameCount] at told
      exact ⟨told ▸ List.prefix_refl _, fun _ => idle, fun _ => told⟩
  | @goesOn next after events left underway nearer told =>
      rw [sameCount] at told
      refine ⟨told ▸ List.prefix_append _ _, fun enough => ?_, fun idle => ?_⟩
      · have some : 0 < next.ticksLeft left := Nat.succ_pos _
        omega
      · simp [underway.running] at idle

end Engine

end Lamplighter
