import Lamplighter.Proofs.Binary32.TotalOrder

/-!
# The opposite of a number

Taking the opposite flips the sign bit of a pattern and keeps all others, of a NaN as well. An
integer is rounded by its size alone, so rounding its opposite gives the opposite: the same pattern
for every integer but zero, which has only one sign, and the same number for zero too
(`Binary32.eq_ofInt_neg`).
-/

namespace Lamplighter.Binary32

/-! ## The sign bit -/

/-- The sign bit is the last one. -/
theorem isNegative_eq_testBit (value : Binary32) :
    value.isNegative = value.bits.toNat.testBit 31 := by
  have fits := value.bits.toNat_lt
  rw [isNegative, Nat.testBit_eq_decide_div_mod_eq, decide_eq_decide]
  omega

/-- A pattern is made of its sign and its magnitude. -/
theorem ext_of_isNegative {left right : Binary32} (signs : left.isNegative = right.isNegative)
    (magnitudes : left.magnitude = right.magnitude) : left = right := by
  have places : left.rank = right.rank := by rw [rank, rank, signs, magnitudes]
  exact rank_inj.1 places

section Opposite

variable (value : Binary32)

theorem toNat_bits_neg : (-value).bits.toNat = value.bits.toNat ^^^ 0x80000000 :=
  UInt32.toNat_xor value.bits 0x80000000

theorem isNegative_neg : (-value).isNegative = !value.isNegative := by
  have signBit : (0x80000000 : Nat).testBit 31 = true := by decide
  rw [isNegative_eq_testBit, isNegative_eq_testBit, toNat_bits_neg, Nat.testBit_xor, signBit,
    Bool.xor_true]

theorem magnitude_neg : (-value).magnitude = value.magnitude := by
  have noRemainder : 0x80000000 % 2 ^ 31 = 0 := rfl
  have kept : (value.bits.toNat ^^^ 0x80000000) % 2 ^ 31 = value.bits.toNat % 2 ^ 31 := by
    rw [Nat.xor_mod_two_pow, noRemainder, Nat.xor_zero]
  rwa [magnitude, magnitude, toNat_bits_neg]

theorem isNaN_neg : (-value).isNaN = value.isNaN := by rw [isNaN, isNaN, magnitude_neg]

/-- The opposite of the opposite is the same pattern. -/
theorem neg_neg : -(-value) = value := by
  refine ext_of_isNegative ?_ ?_
  · rw [isNegative_neg, isNegative_neg, Bool.not_not]
  · rw [magnitude_neg, magnitude_neg]

end Opposite

/-! ## Rounded integers -/

/-- The bits of a number made of a sign and a magnitude. -/
theorem toNat_bits_ofMagnitude (negative : Bool) {magnitude : Nat} (fits : magnitude < 0x80000000) :
    (ofMagnitude negative magnitude).bits.toNat =
      if negative then 0x80000000 + magnitude else magnitude := by
  refine UInt32.toNat_ofNat_of_lt' ?_
  change _ < 4294967296
  split <;> omega

theorem isNegative_ofMagnitude (negative : Bool) {magnitude : Nat} (fits : magnitude < 0x80000000) :
    (ofMagnitude negative magnitude).isNegative = negative := by
  rw [isNegative, toNat_bits_ofMagnitude negative fits]
  cases negative with
  | false => simpa using fits
  | true => simp

theorem magnitude_ofMagnitude (negative : Bool) {magnitude : Nat} (fits : magnitude < 0x80000000) :
    (ofMagnitude negative magnitude).magnitude = magnitude := by
  rw [Binary32.magnitude, toNat_bits_ofMagnitude negative fits]
  cases negative <;> simp <;> omega

/-- What is rounded has a magnitude of at most that of infinity. -/
theorem roundedMagnitude_le (numerator denominator : Nat) :
    roundedMagnitude numerator denominator ≤ infiniteMagnitude := Nat.min_le_left _ _

theorem roundedMagnitude_lt (numerator denominator : Nat) :
    roundedMagnitude numerator denominator < 0x80000000 :=
  Nat.lt_of_le_of_lt (roundedMagnitude_le numerator denominator) (by decide)

theorem isNegative_ofInt (value : Int) : (ofInt value).isNegative = decide (value < 0) :=
  isNegative_ofMagnitude _ (roundedMagnitude_lt _ _)

/-- The magnitude of an integer depends on its size alone. -/
theorem magnitude_ofInt (value : Int) :
    (ofInt value).magnitude = roundedMagnitude (value.natAbs <<< 149) 1 :=
  magnitude_ofMagnitude _ (roundedMagnitude_lt _ _)

theorem isNaN_ofInt (value : Int) : (ofInt value).isNaN = false := by
  rw [isNaN, magnitude_ofInt, decide_eq_false_iff_not]
  exact Nat.not_lt.2 (roundedMagnitude_le _ _)

/-- The opposite of an integer is rounded to the opposite, unless it is zero. -/
theorem ofInt_neg {value : Int} (nonzero : value ≠ 0) : ofInt (-value) = -ofInt value := by
  refine ext_of_isNegative ?_ ?_
  · rw [isNegative_neg, isNegative_ofInt, isNegative_ofInt, ← decide_not, decide_eq_decide]
    omega
  · rw [magnitude_neg, magnitude_ofInt, magnitude_ofInt, Int.natAbs_neg]

/-- Every number is equal to itself. -/
theorem eq_self {value : Binary32} (isNumber : value.isNaN = false) : value.eq value = true := by
  rw [eq, isNumber, decide_eq_true rfl]
  rfl

/-- As numbers, the rounded opposite of an integer and the opposite of the rounded integer are
equal. -/
theorem eq_ofInt_neg (value : Int) : (ofInt (-value)).eq (-ofInt value) = true := by
  by_cases zero : value = 0
  · rw [zero]
    rfl
  · rw [ofInt_neg zero]
    exact eq_self ((isNaN_neg _).trans (isNaN_ofInt value))

end Lamplighter.Binary32
