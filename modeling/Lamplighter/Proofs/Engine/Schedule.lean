import Lamplighter.Animation
import Mathlib.Algebra.BigOperators.Intervals
import Mathlib.Algebra.Order.BigOperators.Group.Finset
import Mathlib.Algebra.Order.Floor.Div
import Mathlib.GroupTheory.GroupAction.Ring

/-!
# Schedules

A schedule says at which speed each tick of the clock plays. An animation of some duration takes as
many ticks as it needs for their multipliers to sum up to the duration, and animations that follow
one another without a gap are over after the sum of these numbers. At a constant speed each takes
the quotient of its duration and the multiplier, rounded up: `Schedule.due_of_constant`.
-/

namespace Lamplighter

/-- A speed for each tick of the clock. Ticks are counted from zero. -/
abbrev Schedule := Nat → Speed

namespace Schedule

/-- The schedule from a tick on. -/
def later (schedule : Schedule) (tick : Nat) : Schedule := fun further => schedule (tick + further)

@[simp] theorem later_zero (schedule : Schedule) : schedule.later 0 = schedule := by
  funext tick
  rw [later, Nat.zero_add]

@[simp] theorem later_later (schedule : Schedule) (tick further : Nat) :
    (schedule.later tick).later further = schedule.later (tick + further) := by
  funext last
  simp only [later, Nat.add_assoc]

/-- How many ticks of an animation are played from a tick on until before another one. -/
def played (schedule : Schedule) (first last : Nat) : Nat :=
  ∑ tick ∈ Finset.Ico first last, (schedule tick).multiplier

/-! ## What is played -/

section Played

variable (schedule : Schedule)

@[simp] theorem played_self (tick : Nat) : schedule.played tick tick = 0 := by
  simp [played]

/-- One tick more plays its multiplier more. -/
theorem played_succ {first last : Nat} (ordered : first ≤ last) :
    schedule.played first (last + 1) =
      schedule.played first last + (schedule last).multiplier :=
  Finset.sum_Ico_succ_top ordered _

/-- What is played from a tick on is counted from this tick. -/
theorem played_later (tick first last : Nat) :
    (schedule.later tick).played first last =
      schedule.played (tick + first) (tick + last) := by
  simp only [played, later, Nat.add_comm tick]
  exact Finset.sum_Ico_add' (fun earlier => (schedule earlier).multiplier) first last tick

/-- Every tick plays something. -/
theorem sub_le_played (first last : Nat) : last - first ≤ schedule.played first last := by
  have positive : ∀ tick ∈ Finset.Ico first last, 1 ≤ (schedule tick).multiplier := by
    intro tick _
    cases schedule tick <;> decide
  simpa [played] using
    Finset.card_nsmul_le_sum (Finset.Ico first last) (fun tick => (schedule tick).multiplier) 1
      positive

end Played

/-! ## How long an animation takes -/

/-- Every duration is played out at last. -/
theorem exists_le_played (schedule : Schedule) (duration : Nat) :
    ∃ ticks, duration ≤ schedule.played 0 ticks :=
  ⟨duration, schedule.sub_le_played 0 duration⟩

/-- The number of ticks that an animation takes which starts in the first one. -/
def ticksFor (schedule : Schedule) (duration : Nat) : Nat :=
  Nat.find (schedule.exists_le_played duration)

/-- The tick in which animations of some durations are over, of which the first starts in the first
tick and each other one as soon as that before it is over. -/
def due (schedule : Schedule) : List Nat → Nat
  | [] => 0
  | duration :: rest =>
      schedule.ticksFor duration + (schedule.later (schedule.ticksFor duration)).due rest

section TicksFor

variable (schedule : Schedule)

/-- Then an animation has been played to its end. -/
theorem le_played_ticksFor (duration : Nat) :
    duration ≤ schedule.played 0 (schedule.ticksFor duration) :=
  Nat.find_spec (schedule.exists_le_played duration)

/-- Before, it has not. -/
theorem played_lt_of_lt_ticksFor {duration ticks : Nat}
    (earlier : ticks < schedule.ticksFor duration) : schedule.played 0 ticks < duration :=
  Nat.lt_of_not_le (Nat.find_min (schedule.exists_le_played duration) earlier)

/-- An animation that takes any time takes a tick. -/
theorem ticksFor_pos {duration : Nat} (positive : 0 < duration) :
    0 < schedule.ticksFor duration := by
  rcases Nat.eq_zero_or_pos (schedule.ticksFor duration) with none | some
  · have played := schedule.le_played_ticksFor duration
    rw [none, played_self] at played
    omega
  · exact some

end TicksFor

/-! ## Constant speed -/

section Constant

variable {schedule : Schedule} {speed : Speed} (constant : ∀ tick, schedule tick = speed)
include constant

/-- At constant speed, a duration is divided by the multiplier. -/
theorem ticksFor_of_constant (duration : Nat) :
    schedule.ticksFor duration = duration ⌈/⌉ speed.multiplier := by
  have positive : 0 < speed.multiplier := by cases speed <;> decide
  have played : ∀ ticks, schedule.played 0 ticks = speed.multiplier * ticks := by
    intro ticks
    simp [Schedule.played, constant, Nat.mul_comm]
  rw [ticksFor, Nat.find_eq_iff]
  constructor
  · rw [played, ← ceilDiv_le_iff_le_mul positive]
  · intro ticks fewer enough
    rw [played, ← ceilDiv_le_iff_le_mul positive] at enough
    omega

/-- At constant speed, the quotients are summed up. -/
theorem due_of_constant (durations : List Nat) :
    schedule.due durations = (durations.map (· ⌈/⌉ speed.multiplier)).sum := by
  induction durations generalizing schedule with
  | nil => rfl
  | cons duration rest inductionHypothesis =>
      rw [due, ticksFor_of_constant constant,
        @inductionHypothesis (schedule.later _) fun tick => constant _, List.map_cons,
        List.sum_cons]

end Constant

end Schedule

end Lamplighter
