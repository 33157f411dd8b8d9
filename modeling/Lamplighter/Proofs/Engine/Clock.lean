import Lamplighter.Proofs.Engine.Tick

/-!
# The clock of an animation

How much of an animation has been played is counted in whole ticks, but shown as a fraction in
binary floating point. `Engine.InTime` is the invariant that keeps the count small: an animation
takes its usual time, and its last tick takes it past its end by less than the greatest speed. There
both ways of keeping time agree: counts are added exactly, and the fraction reaches one in just the
tick in which the count reaches the duration, although it is rounded.
-/

namespace Lamplighter

/-! ## Small counts in binary floating point -/

/-- No speed plays more than three ticks at once, and each plays at least one. -/
theorem Speed.multiplier_bounds (speed : Speed) : 1 ≤ speed.multiplier ∧ speed.multiplier ≤ 3 := by
  cases speed <;> decide

/-- A small count is advanced exactly. -/
theorem Binary32.ofNat_add_multiplier {elapsed : Nat} (small : elapsed < 20) (speed : Speed) :
    ofNat (elapsed + speed.multiplier) = ofNat elapsed + ofNat speed.multiplier := by
  revert elapsed
  cases speed <;> decide +kernel

/-- The rounded fraction of a movement reaches one exactly when the movement has been played. -/
theorem Movement.one_le_fraction_iff (movement : Movement) {elapsed : Nat}
    (small : elapsed < movement.duration.toNat + 3) :
    Binary32.le 1 ((Binary32.ofNat elapsed / .ofNat movement.duration.toNat).min 1) =
      decide (movement.duration.toNat ≤ elapsed) := by
  revert elapsed
  cases movement <;> decide +kernel

namespace Engine

/-! ## Playing -/

/-- While an animation is being played, a tick advances its clock by the speed. -/
theorem play_of_unready {engine : Engine} (unready : engine.isReady = false) :
    engine.play = { engine with elapsed := engine.elapsed + engine.speed.multiplier } := by
  simp only [play, unready, Bool.false_eq_true, if_false]

/-- Nothing else happens in such a tick. -/
theorem tick_of_unready {engine : Engine} (unready : engine.isReady = false) (world : World) :
    engine.tick world =
      ({ engine with elapsed := engine.elapsed + engine.speed.multiplier }, world, []) := by
  simp only [tick, unready, Bool.and_false, Bool.false_eq_true, if_false, play_of_unready unready]

/-- With an animation, the engine is ready when its clock has reached the duration. -/
theorem isReady_iff {engine : Engine} {animation : Animation}
    (shown : engine.animation = some animation) :
    engine.isReady = true ↔ animation.duration.toNat ≤ engine.elapsed := by
  simp only [isReady, shown, decide_eq_true_eq]

/-- With an animation, the engine is not ready before its clock has reached the duration. -/
theorem isReady_eq_false_iff {engine : Engine} {animation : Animation}
    (shown : engine.animation = some animation) :
    engine.isReady = false ↔ engine.elapsed < animation.duration.toNat := by
  simp only [isReady, shown, decide_eq_false_iff_not, Nat.not_le]

/-! ## The invariant of the clock -/

/-- The animation takes its usual time, and is past its end by no more than a tick can take it. -/
def InTime (engine : Engine) : Prop :=
  ∀ animation, engine.animation = some animation →
    animation.duration = animation.movement.duration ∧
      engine.elapsed < animation.duration.toNat + 3

/-- A run begins without an animation. -/
theorem inTime_begun (engine : Engine) (program : Program) : (engine.begun program).InTime :=
  nofun

/-- An animation of an action is in time when it starts. -/
theorem inTime_started (engine : Engine) (cursor : Cursor) (world : World) (action : Action) :
    (engine.started cursor (world.perform action).2).InTime := by
  intro animation shown
  obtain rfl : (world.perform action).2 = animation := Option.some.inj shown
  exact ⟨world.duration_of_perform action, Nat.succ_pos _⟩

section InTime

variable {engine : Engine} (inTime : engine.InTime)
include inTime

/-- A choice of speed does not touch the clock. -/
theorem InTime.setSpeed (speed : Speed) : (engine.setSpeed speed).InTime := inTime

/-- Nor does the end of the run. -/
theorem InTime.ended : engine.ended.InTime := inTime

/-- The last tick of an animation takes it past its end by less than a tick can be. -/
theorem InTime.play : engine.play.InTime := by
  cases ready : engine.isReady with
  | true => rwa [play_of_isReady ready]
  | false =>
      intro animation shown
      rw [play_animation] at shown
      have before := (isReady_eq_false_iff shown).1 ready
      have atMost := engine.speed.multiplier_bounds.2
      refine ⟨(inTime animation shown).1, ?_⟩
      rw [play_of_unready ready]
      change engine.elapsed + engine.speed.multiplier < _
      omega

/-- Every tick keeps the clock in time. -/
theorem InTime.tick (world : World) : (engine.tick world).1.InTime := by
  have ticks := engine.tick_ticks world
  generalize engine.tick world = outcome at ticks
  cases ticks with
  | rests _ => exact inTime.play
  | waits _ _ => exact inTime.play
  | finishes _ _ _ => exact inTime.ended
  | starts _ _ _ _ _ _ => exact (inTime_started engine _ world _).play
  | solves _ _ _ _ _ _ => exact (inTime_started engine _ world _).ended.play

/-- The engine is ready exactly when the fraction that it shows has reached one. -/
theorem InTime.isReady_eq : engine.isReady = Binary32.le 1 engine.progress := by
  cases shown : engine.animation with
  | none =>
      have whole : engine.progress = 1 := by rw [progress, shown]
      have atOnce : engine.isReady = true := by rw [isReady, shown]
      rw [atOnce, whole]
      decide
  | some animation =>
      obtain ⟨usual, small⟩ := inTime animation shown
      rw [usual] at small
      have positive : animation.movement.duration ≠ 0 := by
        cases animation.movement <;> decide
      simp only [isReady, progress, shown, usual, positive, if_false,
        animation.movement.one_le_fraction_iff small]

/-- While the engine is not ready, its clock is advanced exactly in binary floating point. -/
theorem InTime.ofNat_elapsed (unready : engine.isReady = false) (speed : Speed) :
    Binary32.ofNat (engine.elapsed + speed.multiplier) =
      .ofNat engine.elapsed + .ofNat speed.multiplier := by
  cases shown : engine.animation with
  | none => simp [isReady, shown] at unready
  | some animation =>
      have before := (isReady_eq_false_iff shown).1 unready
      have atMost := animation.movement.duration_bounds.2
      rw [(inTime animation shown).1] at before
      exact Binary32.ofNat_add_multiplier (by omega) speed

end InTime

end Engine

end Lamplighter
