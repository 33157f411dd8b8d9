import Lamplighter.Proofs.Engine.Overflow
import Lamplighter.Proofs.Projection.Turning
import Lamplighter.Proofs.Session.Scoring
import Lamplighter.Proofs.World.Climb

/-!
# Sessions in a game that checks its arithmetic

A game that checks its arithmetic breaks off in the step that overflows, and up to that step it is
the game that does not check (`Session.after_of_play?`). No session that is played turns its camera
too far, so that only the action that a tick starts can overflow: in its climb, which none does on a
moderate grid, or because it is the first one too many to be counted.
-/

namespace Lamplighter.Session

/-! ## Steps -/

/-- The session after a step and what the step tells, unless the game breaks off. A load computes
nothing that could overflow. -/
def step? (session : Session) : Step → Option (Session × List GameEvent)
  | .tick input => session.tick? input
  | .load id level => some (session.step (.load id level))

/-- The session after some steps, and the moments at which they happen, unless the game breaks
off. -/
def play? (session : Session) : List Step → Option (Session × List Moment)
  | [] => some (session, [])
  | step :: rest => do
      let (next, _) ← session.step? step
      let (last, moments) ← next.play? rest
      return (last, ⟨session, step⟩ :: moments)

/-- A tick that does not break off is a tick. -/
theorem tick_of_tick? {session : Session} {input : TickInput}
    {outcome : Session × List GameEvent} (ticked : session.tick? input = some outcome) :
    session.tick input = outcome := by
  rw [tick?] at ticked
  split at ticked
  · exact absurd ticked.symm (Option.some_ne_none _)
  · exact Option.some.inj ticked

/-- A step that does not break off is a step. -/
theorem step_of_step? {session : Session} {step : Step} {outcome : Session × List GameEvent}
    (stepped : session.step? step = some outcome) : session.step step = outcome := by
  cases step with
  | tick input => exact tick_of_tick? stepped
  | load id level => exact Option.some.inj stepped

/-- A history that does not break off is a history. -/
theorem after_of_play? {session last : Session} {steps : List Step} {passed : List Moment}
    (played : session.play? steps = some (last, passed)) :
    session.after steps = last ∧ session.moments steps = passed := by
  induction steps generalizing session passed with
  | nil =>
      obtain ⟨rfl, rfl⟩ := Prod.mk.inj (Option.some.inj played)
      exact ⟨rfl, rfl⟩
  | cons step rest inductionHypothesis =>
      simp only [play?, Option.bind_eq_bind, Option.bind_eq_some_iff] at played
      obtain ⟨⟨next, told⟩, stepped, ⟨final, later⟩, others, same⟩ := played
      obtain ⟨rfl, rfl⟩ := Prod.mk.inj (Option.some.inj same)
      obtain ⟨isLast, isLater⟩ := inductionHypothesis others
      rw [after_cons, moments, step_of_step? stepped]
      exact ⟨isLast, by rw [isLater]⟩

/-! ## Cameras -/

/-- The camera has been turned by fewer than four quarters. -/
def Straightened (session : Session) : Prop := session.camera.rotation.toNat < 4

theorem straightened_new {id : String} {level : Level} {session : Session}
    (begun : Session.new id level = .ok session) : session.Straightened := by
  obtain ⟨world, _, rfl⟩ := of_new_eq_ok begun
  exact Nat.zero_lt_succ 3

/-- Every turn of the camera is taken modulo four. -/
theorem straightened_steer {session : Session} (straightened : session.Straightened)
    (input : TickInput) : (session.steer input).Straightened := by
  have few : ∀ rotation, (Camera.turned rotation).rotation.toNat < 4 := by
    intro rotation
    rw [Camera.toNat_rotation_turned]
    exact Nat.mod_lt _ (by decide)
  simp only [Straightened, steer, Camera.rotateLeft, Camera.rotateRight]
  split
  · exact few _
  · split
    · exact few _
    · exact straightened

/-- Whatever is done in a session, its camera stays so. -/
theorem straightened_step {session : Session} (straightened : session.Straightened) (step : Step) :
    (session.step step).1.Straightened := by
  cases step with
  | tick input =>
      have steered := straightened_steer straightened input
      have prepares := session.prepares input
      have moves := session.tick_moves input
      rw [Straightened, Session.step]
      generalize session.prepare input = prepared at prepares moves
      generalize session.tick input = outcome at moves
      cases moves <;> cases prepares <;> exact steered
  | load id level =>
      rcases session.step_load id level with same | ⟨world, _, swapped⟩
      · rw [same]
        exact straightened
      · rw [swapped]
        exact straightened

theorem straightened_after {session : Session} (straightened : session.Straightened)
    (steps : List Step) : (session.after steps).Straightened := by
  induction steps generalizing session with
  | nil => exact straightened
  | cons step rest inductionHypothesis =>
      exact inductionHypothesis (straightened_step straightened step)

/-- Such a camera can be turned in both directions. -/
theorem steerOverflows_eq_false {session : Session} (straightened : session.Straightened)
    (input : TickInput) : session.steerOverflows input = false := by
  have first := Camera.turnOverflows_eq_false straightened .left
  have second : Camera.turnOverflows _ .right = false := Camera.turnOverflows_eq_false
    (straightened_steer straightened { input with rotateRight := false }) .right
  rw [steerOverflows, first, Bool.and_false, Bool.false_or]
  exact Bool.and_eq_false_iff.2 (.inr second)

/-! ## Ticks that break off -/

/-- A tick breaks off exactly when the action that it starts overflows, or cannot be counted. -/
theorem tick?_eq_none_iff {session : Session} (straightened : session.Straightened)
    (input : TickInput) :
    session.tick? input = none ↔
      ∃ action, (session.prepare input).engine.nextAction? = some action ∧
        ((session.prepare input).world.performOverflows action = true ∨
          (session.prepare input).engine.executed.toNat + 1 = UInt32.size) := by
  have breaksOff : session.tick? input = none ↔ session.tickOverflows input = true := by
    rw [tick?, steerOverflows_eq_false straightened input, Bool.false_or]
    cases session.tickOverflows input <;> simp
  have below : (session.prepare input).engine.executed.toNat < UInt32.size :=
    (session.prepare input).engine.executed.toNat_lt
  have full : (session.prepare input).engine.executed.toNat + 1 = UInt32.size ↔
      UInt32.size ≤ (session.prepare input).engine.executed.toNat + 1 := by omega
  rw [breaksOff, full]
  cases next : (session.prepare input).engine.nextAction? with
  | none => simp [tickOverflows, Engine.tickOverflows, next]
  | some action => simp [tickOverflows, Engine.tickOverflows, Engine.countOverflows, next]

/-- On a level that is loaded on a moderate grid, no action overflows. -/
theorem Sound.performOverflows_eq_false {session : Session} (sound : session.Sound)
    (moderate : session.world.initial.Moderate) (input : TickInput) (action : Action) :
    (session.prepare input).world.performOverflows action = false := by
  obtain ⟨fresh, isFresh, played⟩ := sound.played
  rw [played.initial] at moderate
  exact ((session.prepares input).playedFrom isFresh played).performOverflows_eq_false isFresh
    moderate action

end Lamplighter.Session
