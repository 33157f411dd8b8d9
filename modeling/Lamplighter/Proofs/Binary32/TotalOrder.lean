import Lamplighter.Binary32

/-!
# The total order of bit patterns

Sorting needs an order in which nothing is left out, but no number can be compared with a NaN, and
the two zeros are equal. `Binary32.TotalLE` gives the rules by which every two bit patterns are
ordered all the same. Numbers stand in the order of their values, which is that of their magnitudes,
so the place of a pattern can be computed from its bits: `Binary32.totalLE_iff_rank_le`.
-/

namespace Lamplighter.Binary32

/-! ## Values and magnitudes -/

/-- Shifting keeps the order of natural numbers. -/
theorem shiftLeft_lt_shiftLeft {left right : Nat} (less : left < right) (places : Nat) :
    left <<< places < right <<< places := by
  rw [Nat.shiftLeft_eq, Nat.shiftLeft_eq]
  exact Nat.mul_lt_mul_of_pos_right less (Nat.two_pow_pos places)

/-- The value of a magnitude, by the distance of its neighbours and its place among them. -/
theorem unitsOfMagnitude_eq (binade : Nat) {fraction : Nat} (fits : fraction < 0x800000) :
    unitsOfMagnitude ((binade + 1) * 0x800000 + fraction) = (0x800000 + fraction) <<< binade := by
  have great : ¬ (binade + 1) * 0x800000 + fraction < 0x800000 := by omega
  have place : ((binade + 1) * 0x800000 + fraction) % 0x800000 = fraction := by omega
  have distance : ((binade + 1) * 0x800000 + fraction) / 0x800000 - 1 = binade := by omega
  rw [unitsOfMagnitude, if_neg great, place, distance]

/-- The next magnitude has a greater value. -/
theorem unitsOfMagnitude_lt_succ (magnitude : Nat) :
    unitsOfMagnitude magnitude < unitsOfMagnitude (magnitude + 1) := by
  by_cases small : magnitude < 0x800000
  · have value : unitsOfMagnitude magnitude = magnitude := if_pos small
    by_cases next : magnitude + 1 < 0x800000
    · have nextValue : unitsOfMagnitude (magnitude + 1) = magnitude + 1 := if_pos next
      omega
    · obtain rfl : magnitude = 0x7fffff := by omega
      decide
  · obtain ⟨binade, fraction, fits, rfl⟩ : ∃ binade fraction, fraction < 0x800000 ∧
        magnitude = (binade + 1) * 0x800000 + fraction :=
      ⟨magnitude / 0x800000 - 1, magnitude % 0x800000, by omega, by omega⟩
    rw [unitsOfMagnitude_eq binade fits]
    by_cases inside : fraction + 1 < 0x800000
    · rw [Nat.add_assoc, unitsOfMagnitude_eq binade inside]
      exact shiftLeft_lt_shiftLeft (Nat.lt_succ_self _) binade
    · -- Behind the last place the neighbours are twice as far apart.
      have next : (binade + 1) * 0x800000 + fraction + 1 = (binade + 1 + 1) * 0x800000 + 0 := by
        omega
      rw [next, unitsOfMagnitude_eq (binade + 1) (by decide), Nat.shiftLeft_succ_inside]
      exact shiftLeft_lt_shiftLeft (by omega) binade

/-- A greater magnitude has a greater value. -/
theorem unitsOfMagnitude_lt {lesser greater : Nat} (less : lesser < greater) :
    unitsOfMagnitude lesser < unitsOfMagnitude greater := by
  induction less with
  | refl => exact unitsOfMagnitude_lt_succ lesser
  | step _ inductionHypothesis =>
      exact Nat.lt_trans inductionHypothesis (unitsOfMagnitude_lt_succ _)

/-- Values are ordered as the magnitudes are. -/
theorem unitsOfMagnitude_lt_iff {left right : Nat} :
    unitsOfMagnitude left < unitsOfMagnitude right ↔ left < right := by
  refine ⟨fun less => ?_, unitsOfMagnitude_lt⟩
  rcases Nat.lt_trichotomy left right with before | rfl | behind
  · exact before
  · exact absurd less (Nat.lt_irrefl _)
  · exact absurd less (Nat.lt_asymm (unitsOfMagnitude_lt behind))

/-- No two magnitudes have the same value. -/
theorem unitsOfMagnitude_inj {left right : Nat} :
    unitsOfMagnitude left = unitsOfMagnitude right ↔ left = right := by
  refine ⟨fun same => ?_, congrArg unitsOfMagnitude⟩
  rcases Nat.lt_trichotomy left right with before | rfl | behind
  · exact absurd same (Nat.ne_of_lt (unitsOfMagnitude_lt before))
  · rfl
  · exact absurd same (Nat.ne_of_gt (unitsOfMagnitude_lt behind))

/-! ## The order -/

/-- The total order of bit patterns. -/
inductive TotalLE (left right : Binary32) : Prop where
  /-- Numbers are ordered by their values. -/
  | less (less : left.lt right = true)
  /-- Of equal numbers, one that is negative comes first. They differ in that only if they are
  zeros. -/
  | equal (equal : left.eq right = true) (signs : right.isNegative = true → left.isNegative = true)
  /-- Negative NaNs come before everything else. -/
  | first (isNaN : left.isNaN = true) (negative : left.isNegative = true)
      (other : right.isNaN = false ∨ right.isNegative = false)
  /-- The other NaNs come behind everything else. -/
  | last (isNaN : right.isNaN = true) (positive : right.isNegative = false)
      (other : left.isNaN = false ∨ left.isNegative = true)
  /-- NaNs with the sign bit clear are ordered by their magnitudes: signalling ones before quiet
  ones, and then by what they carry. -/
  | positiveNaNs (areNaNs : left.isNaN = true ∧ right.isNaN = true)
      (positive : left.isNegative = false ∧ right.isNegative = false)
      (carries : left.magnitude ≤ right.magnitude)
  /-- Negative NaNs are ordered the other way. -/
  | negativeNaNs (areNaNs : left.isNaN = true ∧ right.isNaN = true)
      (negative : left.isNegative = true ∧ right.isNegative = true)
      (carries : right.magnitude ≤ left.magnitude)

section Places

variable {left right : Binary32}

/-- The place of a pattern with the sign bit set. -/
theorem rank_of_isNegative {value : Binary32} (negative : value.isNegative = true) :
    value.rank = -(value.magnitude : Int) - 1 := if_pos negative

/-- The place of any other pattern. -/
theorem rank_of_not_isNegative {value : Binary32} (positive : value.isNegative = false) :
    value.rank = value.magnitude := by
  rw [rank, positive, if_neg Bool.false_ne_true]

/-- The value of a pattern with the sign bit set. -/
theorem units_of_isNegative {value : Binary32} (negative : value.isNegative = true) :
    value.units = -(unitsOfMagnitude value.magnitude : Int) := if_pos negative

/-- The value of any other pattern. -/
theorem units_of_not_isNegative {value : Binary32} (positive : value.isNegative = false) :
    value.units = unitsOfMagnitude value.magnitude := by
  rw [units, positive, if_neg Bool.false_ne_true]

/-- Patterns with the sign bit set have their places below zero. -/
theorem rank_neg_iff {value : Binary32} : value.rank < 0 ↔ value.isNegative = true := by
  cases sign : value.isNegative with
  | false =>
      rw [rank_of_not_isNegative sign]
      simp
  | true =>
      have below : -(value.magnitude : Int) - 1 < 0 := by omega
      rw [rank_of_isNegative sign]
      exact iff_of_true below rfl

/-- The other ones have not. -/
theorem rank_nonneg {value : Binary32} (positive : value.isNegative = false) : 0 ≤ value.rank := by
  rw [rank_of_not_isNegative positive]
  exact Int.natCast_nonneg _

/-- What has a lesser value has a lesser place. -/
theorem rank_lt_of_units_lt (less : left.units < right.units) : left.rank < right.rank := by
  cases leftSign : left.isNegative with
  | false =>
      cases rightSign : right.isNegative with
      | false =>
          rw [units_of_not_isNegative leftSign, units_of_not_isNegative rightSign, Int.ofNat_lt,
            unitsOfMagnitude_lt_iff] at less
          rw [rank_of_not_isNegative leftSign, rank_of_not_isNegative rightSign]
          exact Int.ofNat_lt.2 less
      | true =>
          rw [units_of_not_isNegative leftSign, units_of_isNegative rightSign] at less
          omega
  | true =>
      cases rightSign : right.isNegative with
      | false =>
          exact Int.lt_of_lt_of_le (rank_neg_iff.2 leftSign) (rank_nonneg rightSign)
      | true =>
          rw [units_of_isNegative leftSign, units_of_isNegative rightSign, Int.neg_lt_neg_iff,
            Int.ofNat_lt, unitsOfMagnitude_lt_iff] at less
          rw [rank_of_isNegative leftSign, rank_of_isNegative rightSign]
          omega

/-- Patterns with the same value and the same sign have the same place. -/
theorem rank_eq_of_units_eq (equal : left.units = right.units)
    (signs : left.isNegative = right.isNegative) : left.rank = right.rank := by
  cases rightSign : right.isNegative with
  | false =>
      have leftSign := signs.trans rightSign
      rw [units_of_not_isNegative leftSign, units_of_not_isNegative rightSign, Int.ofNat_inj,
        unitsOfMagnitude_inj] at equal
      rw [rank_of_not_isNegative leftSign, rank_of_not_isNegative rightSign, equal]
  | true =>
      have leftSign := signs.trans rightSign
      rw [units_of_isNegative leftSign, units_of_isNegative rightSign, Int.neg_inj, Int.ofNat_inj,
        unitsOfMagnitude_inj] at equal
      rw [rank_of_isNegative leftSign, rank_of_isNegative rightSign, equal]

/-- The place of a negative NaN is before that of negative infinity. -/
theorem rank_lt_of_isNaN {value : Binary32} (isNaN : value.isNaN = true)
    (negative : value.isNegative = true) : value.rank < -(infiniteMagnitude : Int) - 1 := by
  have beyond : infiniteMagnitude < value.magnitude := decide_eq_true_iff.1 isNaN
  rw [rank_of_isNegative negative]
  omega

/-- The place of any other NaN is behind that of infinity. -/
theorem lt_rank_of_isNaN {value : Binary32} (isNaN : value.isNaN = true)
    (positive : value.isNegative = false) : (infiniteMagnitude : Int) < value.rank := by
  have beyond : infiniteMagnitude < value.magnitude := decide_eq_true_iff.1 isNaN
  rw [rank_of_not_isNegative positive]
  exact Int.ofNat_lt.2 beyond

/-- The place of a number is between those of the two infinities. -/
theorem rank_of_not_isNaN {value : Binary32} (isNumber : value.isNaN = false) :
    -(infiniteMagnitude : Int) - 1 ≤ value.rank ∧ value.rank ≤ infiniteMagnitude := by
  have within : value.magnitude ≤ infiniteMagnitude :=
    Nat.le_of_not_lt (decide_eq_false_iff_not.1 isNumber)
  cases sign : value.isNegative with
  | false =>
      rw [rank_of_not_isNegative sign]
      omega
  | true =>
      rw [rank_of_isNegative sign]
      omega

/-- No two patterns have the same place. -/
theorem rank_inj : left.rank = right.rank ↔ left = right := by
  refine ⟨fun same => ?_, congrArg rank⟩
  have signs : left.isNegative = right.isNegative := by
    rw [Bool.eq_iff_iff, ← rank_neg_iff, ← rank_neg_iff, same]
  have magnitudes : left.magnitude = right.magnitude := by
    cases rightSign : right.isNegative with
    | false =>
        rw [rank_of_not_isNegative (signs.trans rightSign),
          rank_of_not_isNegative rightSign] at same
        exact Int.ofNat_inj.1 same
    | true =>
        rw [rank_of_isNegative (signs.trans rightSign), rank_of_isNegative rightSign] at same
        omega
  obtain ⟨leftBits⟩ := left
  obtain ⟨rightBits⟩ := right
  have leftFits := leftBits.toNat_lt
  have rightFits := rightBits.toNat_lt
  simp only [isNegative, magnitude, decide_eq_decide] at signs magnitudes
  exact congrArg _ (UInt32.toNat_inj.1 (by omega))

end Places

/-- What comes first has no greater place. -/
theorem TotalLE.rank_le {left right : Binary32} (ordered : left.TotalLE right) :
    left.rank ≤ right.rank := by
  cases ordered with
  | less less =>
      simp only [lt, Bool.and_eq_true, decide_eq_true_eq] at less
      exact Int.le_of_lt (rank_lt_of_units_lt less.2)
  | equal equal signs =>
      simp only [eq, Bool.and_eq_true, decide_eq_true_eq] at equal
      cases rightSign : right.isNegative with
      | false =>
          cases leftSign : left.isNegative with
          | false =>
              exact Int.le_of_eq (rank_eq_of_units_eq equal.2 (leftSign.trans rightSign.symm))
          | true =>
              have before := rank_neg_iff.2 leftSign
              exact Int.le_trans (Int.le_of_lt before) (rank_nonneg rightSign)
      | true =>
          have leftSign := signs rightSign
          exact Int.le_of_eq (rank_eq_of_units_eq equal.2 (leftSign.trans rightSign.symm))
  | first isNaN negative other =>
      have before := rank_lt_of_isNaN isNaN negative
      rcases other with isNumber | positive
      · have within := rank_of_not_isNaN isNumber
        omega
      · have behind := rank_nonneg positive
        omega
  | last isNaN positive other =>
      have behind := lt_rank_of_isNaN isNaN positive
      rcases other with isNumber | negative
      · have within := rank_of_not_isNaN isNumber
        omega
      · have before := rank_neg_iff.2 negative
        omega
  | positiveNaNs _ positive carries =>
      rw [rank_of_not_isNegative positive.1, rank_of_not_isNegative positive.2]
      exact Int.ofNat_le.2 carries
  | negativeNaNs _ negative carries =>
      rw [rank_of_isNegative negative.1, rank_of_isNegative negative.2]
      omega

/-- What has no greater place comes first, if both are numbers. -/
theorem totalLE_of_numbers {left right : Binary32} (isLeft : left.isNaN = false)
    (isRight : right.isNaN = false) (places : left.rank ≤ right.rank) : left.TotalLE right := by
  rcases Int.lt_trichotomy left.units right.units with before | same | behind
  · exact .less (by simp [lt, isLeft, isRight, before])
  · refine .equal (by simp [eq, isLeft, isRight, same]) fun negative => ?_
    exact rank_neg_iff.1 (Int.lt_of_le_of_lt places (rank_neg_iff.2 negative))
  · exact absurd (rank_lt_of_units_lt behind) (Int.not_lt.2 places)

/-- The same holds if both are NaNs. -/
theorem totalLE_of_NaNs {left right : Binary32} (isLeft : left.isNaN = true)
    (isRight : right.isNaN = true) (places : left.rank ≤ right.rank) : left.TotalLE right := by
  cases leftSign : left.isNegative with
  | false =>
      cases rightSign : right.isNegative with
      | false =>
          rw [rank_of_not_isNegative leftSign, rank_of_not_isNegative rightSign] at places
          exact .positiveNaNs ⟨isLeft, isRight⟩ ⟨leftSign, rightSign⟩ (Int.ofNat_le.1 places)
      | true =>
          have negative := Int.lt_of_le_of_lt places (rank_neg_iff.2 rightSign)
          exact absurd (rank_nonneg leftSign) (Int.not_le.2 negative)
  | true =>
      cases rightSign : right.isNegative with
      | false => exact .first isLeft leftSign (.inr rightSign)
      | true =>
          rw [rank_of_isNegative leftSign, rank_of_isNegative rightSign] at places
          exact .negativeNaNs ⟨isLeft, isRight⟩ ⟨leftSign, rightSign⟩ (by omega)

/-- Patterns are in their total order exactly when their places are. -/
theorem totalLE_iff_rank_le {left right : Binary32} :
    left.TotalLE right ↔ left.rank ≤ right.rank := by
  refine ⟨TotalLE.rank_le, fun places => ?_⟩
  cases isLeft : left.isNaN with
  | false =>
      cases isRight : right.isNaN with
      | false => exact totalLE_of_numbers isLeft isRight places
      | true =>
          cases rightSign : right.isNegative with
          | false => exact .last isRight rightSign (.inl isLeft)
          | true =>
              have before := rank_lt_of_isNaN isRight rightSign
              have within := rank_of_not_isNaN isLeft
              omega
  | true =>
      cases isRight : right.isNaN with
      | false =>
          cases leftSign : left.isNegative with
          | false =>
              have behind := lt_rank_of_isNaN isLeft leftSign
              have within := rank_of_not_isNaN isRight
              omega
          | true => exact .first isLeft leftSign (.inl isRight)
      | true => exact totalLE_of_NaNs isLeft isRight places

/-! ## It orders everything -/

/-- Of every two patterns, one comes first. -/
theorem totalLE_total (left right : Binary32) : left.TotalLE right ∨ right.TotalLE left := by
  rw [totalLE_iff_rank_le, totalLE_iff_rank_le]
  exact Int.le_total _ _

theorem TotalLE.trans {first second third : Binary32} (before : first.TotalLE second)
    (behind : second.TotalLE third) : first.TotalLE third :=
  totalLE_iff_rank_le.2 (Int.le_trans before.rank_le behind.rank_le)

/-- Only what is the same bit by bit is tied. -/
theorem TotalLE.antisymm {left right : Binary32} (before : left.TotalLE right)
    (behind : right.TotalLE left) : left = right :=
  rank_inj.1 (Int.le_antisymm before.rank_le behind.rank_le)

end Lamplighter.Binary32
