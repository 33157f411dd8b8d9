import Lamplighter.Proofs.Engine.Tick

/-!
# Progress

`Engine.progress_bounds`: however many ticks of an animation have been played, its progress lies
between zero and one. A quotient of two natural numbers may be rounded up, even to infinity, but it
never gets a sign and never is a NaN.
-/

namespace Lamplighter

namespace Binary32

/-! ## Numbers that are not below zero -/

/-- A number without a sign: zero, a positive number or infinity. -/
def Unsigned (value : Binary32) : Prop := value.bits.toNat ≤ infiniteMagnitude

/-- What is rounded without a sign has none. -/
theorem unsigned_ofUnits (numerator denominator : Nat) :
    (ofUnits false numerator denominator).Unsigned := by
  have bounded : roundedMagnitude numerator denominator ≤ infiniteMagnitude := Nat.min_le_left _ _
  have fits : roundedMagnitude numerator denominator < 4294967296 :=
    Nat.lt_of_le_of_lt bounded (by decide)
  simp only [Unsigned, ofUnits, ofMagnitude, Bool.false_eq_true, if_false]
  rwa [UInt32.toNat_ofNat_of_lt' fits]

/-- A natural number has no sign. -/
theorem unsigned_ofNat (value : Nat) : (ofNat value).Unsigned := unsigned_ofUnits _ _

section Unsigned

variable {value : Binary32} (unsigned : value.Unsigned)
include unsigned

/-- Its sign bit is clear. -/
theorem Unsigned.isNegative_eq : value.isNegative = false := by
  unfold Unsigned infiniteMagnitude at unsigned
  rw [isNegative, decide_eq_false_iff_not]
  omega

/-- It is a number. -/
theorem Unsigned.isNaN_eq : value.isNaN = false := by
  unfold Unsigned infiniteMagnitude at unsigned
  rw [isNaN, magnitude, infiniteMagnitude, decide_eq_false_iff_not]
  omega

/-- It is not below zero. -/
theorem Unsigned.units_nonneg : 0 ≤ value.units := by
  rw [units, unsigned.isNegative_eq]
  exact Int.natCast_nonneg _

/-- Divided by a finite one that is not zero, it still has no sign. -/
theorem Unsigned.div {divisor : Binary32} (divides : divisor.Unsigned)
    (finite : divisor.isInfinite = false) (nonzero : divisor.isZero = false) :
    (value / divisor).Unsigned := by
  have quotient : value / divisor =
      if value.isInfinite then infinity false
      else ofUnits false (value.units.natAbs <<< 149) divisor.units.natAbs := by
    change Binary32.div value divisor = _
    simp [Binary32.div, nanOf?, unsigned.isNaN_eq, divides.isNaN_eq, unsigned.isNegative_eq,
      divides.isNegative_eq, finite, nonzero]
  rw [quotient]
  split
  next => exact Nat.le_refl infiniteMagnitude
  next => exact unsigned_ofUnits _ _

/-- The lesser of it and one lies between zero and one. -/
theorem Unsigned.min_one : le 0 (value.min 1) = true ∧ (value.min 1).le 1 = true := by
  have zero : (0 : Binary32).isNaN = false ∧ (0 : Binary32).units = 0 := by decide
  have one : (1 : Binary32).isNaN = false ∧ 0 ≤ (1 : Binary32).units := by decide
  have isNumber := unsigned.isNaN_eq
  have positive := unsigned.units_nonneg
  simp only [min, isNumber, one.1, Bool.false_eq_true, if_false]
  split
  next above => simp [le, zero, one]
  next notAbove =>
    have below : value.units ≤ (1 : Binary32).units := by
      simpa [lt, one.1, isNumber] using notAbove
    simp [le, zero, one.1, isNumber, positive, below]

end Unsigned

/-! ## Order -/

/-- What is at most a number that is less than a third is less than the third. -/
theorem lt_of_le_of_lt {first second third : Binary32} (atMost : first.le second = true)
    (less : second.lt third = true) : first.lt third = true := by
  simp only [le, lt, Bool.and_eq_true, Bool.not_eq_true', decide_eq_true_eq] at *
  exact ⟨⟨atMost.1.1, less.1.2⟩, Int.lt_of_le_of_lt atMost.2 less.2⟩

/-- Of two numbers, one is at most the other unless that one is less. -/
theorem le_eq_not_lt {left right : Binary32} (isLeft : left.isNaN = false)
    (isRight : right.isNaN = false) : left.le right = !right.lt left := by
  simp only [le, lt, isLeft, isRight, Bool.not_false, Bool.true_and]
  rw [← decide_not, decide_eq_decide]
  exact Int.not_lt.symm

/-- Only numbers can be compared. -/
theorem isNaN_of_le {left right : Binary32} (atMost : left.le right = true) :
    left.isNaN = false ∧ right.isNaN = false := by
  simp only [le, Bool.and_eq_true, Bool.not_eq_true'] at atMost
  exact atMost.1

end Binary32

namespace Engine

/-- The progress of an engine whose animation takes its usual time lies between zero and one. -/
theorem progress_bounds {engine : Engine}
    (usual : ∀ animation, engine.animation = some animation →
      animation.duration = animation.movement.duration) :
    Binary32.le 0 engine.progress = true ∧ engine.progress.le 1 = true := by
  cases shown : engine.animation with
  | none =>
      have whole : engine.progress = 1 := by rw [progress, shown]
      rw [whole]
      decide
  | some animation =>
      have duration := usual animation shown
      have divisor : (Binary32.ofNat animation.duration.toNat).isInfinite = false ∧
          (Binary32.ofNat animation.duration.toNat).isZero = false := by
        rw [duration]
        cases animation.movement <;> decide
      have nonzero : animation.duration ≠ 0 := by
        rw [duration]
        cases animation.movement <;> decide
      have quotient := (Binary32.unsigned_ofNat engine.elapsed).div
        (Binary32.unsigned_ofNat animation.duration.toNat) divisor.1 divisor.2
      simpa only [progress, shown, nonzero, if_false] using quotient.min_one

end Engine

end Lamplighter
