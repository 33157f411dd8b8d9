import Lamplighter.Overflow
import Lamplighter.Proofs.Engine.Run

/-!
# Counting the actions of a run

The actions of a run are counted with 32 bits. A run whose actions can be counted when it begins can
count what is ahead at any time (`Engine.Countable`); then a tick overflows only where the action
that it starts does.
-/

namespace Lamplighter

/-- Below the limit a count goes on exactly. -/
theorem toNat_add_ofNat {count : UInt32} {further : Nat}
    (small : count.toNat + further < UInt32.size) :
    (count + .ofNat further).toNat = count.toNat + further := by
  rw [UInt32.toNat_add, UInt32.toNat_ofNat_of_lt' (by omega)]
  exact Nat.mod_eq_of_lt small

namespace Engine

/-! ## The action that a tick starts -/

/-- The action that a tick starts. -/
theorem nextAction?_eq {engine : Engine} {program : Program} {cursor next : Cursor}
    {action : Action} (running : engine.isRunning = true) (ready : engine.isReady = true)
    (runs : engine.program = some program) (isCursor : engine.cursor = some cursor)
    (taken : cursor.advance program = (some action, next)) :
    engine.nextAction? = some action := by
  simp [nextAction?, running, ready, runs, isCursor, taken]

/-- What the next tick starts is the first of the actions ahead. -/
theorem Underway.length_nextAction?_le {engine : Engine} {program : Program} {ahead : List Action}
    (underway : engine.Underway program ahead) :
    engine.nextAction?.toList.length ≤ ahead.length := by
  obtain ⟨cursor, isCursor, stands⟩ := underway.stands
  cases ready : engine.isReady with
  | false => simp [nextAction?, ready]
  | true =>
      simp only [nextAction?, underway.running, ready, isCursor, underway.runs, Bool.and_self,
        if_true]
      cases ahead with
      | nil => simp [stands.advance_nil]
      | cons action rest =>
          obtain ⟨next, taken, -⟩ := stands.advance_cons
          simp [taken]

/-- A tick overflows when the action that it starts does, or when it cannot count it. -/
theorem tickOverflows_iff (engine : Engine) (world : World) :
    engine.tickOverflows world = true ↔
      engine.nextAction?.any world.performOverflows = true ∨
        UInt32.size ≤ engine.executed.toNat + engine.nextAction?.toList.length := by
  have small : engine.executed.toNat < UInt32.size := engine.executed.toNat_lt
  cases next : engine.nextAction? with
  | none => simpa [tickOverflows, next] using small
  | some action => simp [tickOverflows, next, countOverflows]

/-! ## Runs that can be counted -/

/-- An action that is started is counted exactly, if it can be counted together with the others. -/
theorem executed_start {engine : Engine} {action : Action} {rest : List Action}
    (countable : engine.executed.toNat + (action :: rest).length < UInt32.size) (cursor : Cursor)
    (animation : Animation) :
    (engine.started cursor animation).play.executed.toNat + rest.length < UInt32.size := by
  rw [List.length_cons] at countable
  have counted := @toNat_add_ofNat engine.executed 1 (by omega)
  rw [play_executed, started_executed]
  change (engine.executed + .ofNat 1).toNat + _ < _
  omega

/-- If the engine runs, it can count what it has still to take. -/
def Countable (engine : Engine) : Prop :=
  engine.isRunning = true → ∃ program ahead, engine.Underway program ahead ∧
    engine.executed.toNat + ahead.length < UInt32.size

/-- Nothing has been counted at the start of a run. -/
theorem countable_begun (engine : Engine) {program : Program}
    (countable : program.actions.length < UInt32.size) : (engine.begun program).Countable := by
  intro _
  have sameCount : (engine.begun program).executed = 0 := rfl
  exact ⟨program, program.actions, underway_begun engine program,
    by simpa [sameCount] using countable⟩

section Countable

variable {engine : Engine} (countable : engine.Countable)
include countable

/-- A choice of speed does not touch the count. -/
theorem Countable.setSpeed (speed : Speed) : (engine.setSpeed speed).Countable := by
  intro running
  obtain ⟨program, ahead, underway, bound⟩ := countable running
  exact ⟨program, ahead, ⟨underway.running, underway.runs, underway.stands⟩, bound⟩

/-- A tick counts the action that it starts, and can count the others. -/
theorem Countable.tick (world : World) : (engine.tick world).1.Countable := by
  have ticks := engine.tick_ticks world
  generalize engine.tick world = outcome at ticks
  cases ticks with
  | rests idle => simp [Countable, idle]
  | waits running unready =>
      obtain ⟨program, ahead, underway, bound⟩ := countable running
      exact fun _ => ⟨program, ahead, (underway.play unready).1, by simpa using bound⟩
  | finishes _ _ _ => simp [Countable]
  | starts running _ runs isCursor taken _ =>
      obtain ⟨program, ahead, underway, bound⟩ := countable running
      obtain ⟨rest, rfl, further, -⟩ := underway.start runs isCursor taken world
      exact fun _ => ⟨program, rest, further, executed_start bound _ _⟩
  | solves _ _ _ _ _ _ => simp [Countable]

/-- So a tick overflows only where the action that it starts does. -/
theorem Countable.tickOverflows_eq (world : World) :
    engine.tickOverflows world = engine.nextAction?.any world.performOverflows := by
  rw [Bool.eq_iff_iff, tickOverflows_iff, or_iff_left]
  rw [Nat.not_le]
  cases running : engine.isRunning with
  | false =>
      have small : engine.executed.toNat < UInt32.size := engine.executed.toNat_lt
      simpa [nextAction?, running] using small
  | true =>
      obtain ⟨program, ahead, underway, bound⟩ := countable running
      have atMost := underway.length_nextAction?_le
      omega

end Countable

end Engine

end Lamplighter
