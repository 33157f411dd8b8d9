import Lamplighter.Json.Double
import Mathlib.Data.List.TakeWhile

/-!
# Numerals are read back from their spelling

A numeral is spelt in one way and read in several. Reading its own spelling gives the numeral again,
`Numeral.read?_spelling`: the whole part ends where the point or the exponent begins, and neither
has a digit in front. A natural number that fits into a machine word is not too large for a double.
-/

namespace Lamplighter.Json

/-- A text does not go on with a character of a kind. -/
def StopsAt (kind : Char → Bool) (text : List Char) : Prop :=
  ∀ char ∈ text.head?, kind char = false

/-- A digit is none of the characters that are no digits. -/
theorem ne_of_isDigit {char other : Char} (isDigit : char.isDigit = true)
    (notDigit : other.isDigit = false) : char ≠ other := by
  rintro rfl
  simp [isDigit] at notDigit

/-- Rounding at most doubles a number. -/
theorem roundToDouble_le (dividend : Nat) : roundToDouble dividend 1 ≤ 2 * dividend := by
  rcases Nat.eq_zero_or_pos dividend with rfl | positive
  · decide
  · have spacing : 1 <<< (dividend.log2 + 1 - 53) ≤ dividend := by
      rw [Nat.shiftLeft_eq, Nat.one_mul]
      calc 2 ^ (dividend.log2 + 1 - 53) ≤ 2 ^ dividend.log2 :=
            Nat.pow_le_pow_right (by decide) (by omega)
        _ ≤ dividend := Nat.log2_self_le (by omega)
    simp only [roundToDouble, Nat.div_one, Nat.one_mul]
    generalize 1 <<< (dividend.log2 + 1 - 53) = unit at spacing ⊢
    have whole : dividend / unit * unit ≤ dividend := Nat.div_mul_le_self _ _
    split
    · rw [Nat.add_mul]
      omega
    · omega

namespace Numeral

/-! ## Digits -/

theorem isDigit_of_mem_digits {value : Nat} {char : Char} (member : char ∈ digits value) :
    char.isDigit = true :=
  Nat.isDigit_of_mem_toDigits (by decide) (by decide) member

theorem digits_ne_nil (value : Nat) : digits value ≠ [] := Nat.toDigits_ne_nil

@[simp] theorem valueOf_digits (value : Nat) : valueOf (digits value) = value :=
  Nat.ofDigitChars_ten_toDigits

@[simp] theorem isDigit_digitChar (digit : Fin 10) : (digitChar digit).isDigit = true := by
  simp [digitChar, Nat.isDigit_digitChar]

@[simp] theorem digitOf_digitChar (digit : Fin 10) : digitOf (digitChar digit) = digit := by
  decide +revert

/-- The first character of a number is a digit, and so it is no sign. -/
theorem digits_eq_cons (value : Nat) :
    ∃ first rest, digits value = first :: rest ∧ first.isDigit = true := by
  cases split : digits value with
  | nil => exact absurd split (digits_ne_nil value)
  | cons first rest =>
      have member : first ∈ digits value := by
        rw [split]
        exact List.mem_cons_self
      exact ⟨first, rest, rfl, isDigit_of_mem_digits member⟩

/-- Only zero is spelt with a zero in front. -/
theorem eq_zero_of_head?_digits {value : Nat} (zero : (digits value).head? = some '0') :
    value = 0 := by
  induction value using Nat.strong_induction_on with
  | _ value inductionHypothesis =>
      by_cases small : value < 10
      · simpa [digits, Nat.toDigits_of_lt_base small] using zero
      · have longer : digits value = digits (value / 10) ++ [(value % 10).digitChar] :=
          Nat.toDigits_of_base_le (by decide) (Nat.le_of_not_lt small)
        obtain ⟨first, rest, split, _⟩ := digits_eq_cons (value / 10)
        have front : (digits (value / 10)).head? = some '0' := by
          simpa [longer, split] using zero
        have none := inductionHypothesis (value / 10) (by omega) front
        omega

/-- Digits are split from a text that does not go on with one. -/
theorem splitDigits_append {front rest : List Char} (digits : ∀ char ∈ front, char.isDigit = true)
    (stops : StopsAt Char.isDigit rest) : splitDigits (front ++ rest) = (front, rest) := by
  have nothing : rest.takeWhile Char.isDigit = [] ∧ rest.dropWhile Char.isDigit = rest := by
    cases rest with
    | nil => exact ⟨rfl, rfl⟩
    | cons char rest =>
        have notDigit := stops char rfl
        simp [notDigit]
  rw [splitDigits, List.takeWhile_append_of_pos digits, List.dropWhile_append_of_pos digits,
    nothing.1, nothing.2, List.append_nil]

/-! ## Exponents -/

/-- An exponent is read back from what stands behind its letter. -/
theorem readExponent?_tail (exponent : Int) :
    readExponent? (exponentSpelling exponent).tail = some exponent := by
  obtain ⟨first, rest, split, isDigit⟩ := digits_eq_cons exponent.natAbs
  have all : (first :: rest).all Char.isDigit = true := by
    rw [← split]
    exact List.all_eq_true.2 fun _ member => isDigit_of_mem_digits member
  have value : valueOf (first :: rest) = exponent.natAbs := by rw [← split, valueOf_digits]
  have isNumber : (first :: rest ≠ [] ∧ (first :: rest).all Char.isDigit = true) = True :=
    eq_true ⟨List.cons_ne_nil _ _, all⟩
  by_cases negative : exponent < 0
  · have size : -(exponent.natAbs : Int) = exponent := by omega
    rw [exponentSpelling, if_pos negative, split, List.tail_cons]
    simp only [readExponent?, isNumber, if_true, value, size]
  · have size : (exponent.natAbs : Int) = exponent := by omega
    have notMinus : first ≠ '-' := ne_of_isDigit isDigit rfl
    have notPlus : first ≠ '+' := ne_of_isDigit isDigit rfl
    rw [exponentSpelling, if_neg negative, split, List.tail_cons]
    simp only [readExponent?]
    split
    next same => exact absurd (List.cons.inj same).1 notMinus
    next same => exact absurd (List.cons.inj same).1 notPlus
    next => simp only [isNumber, if_true, Bool.false_eq_true, if_false, value, size]

/-- The exponent of a numeral is read back, or that it has none. -/
theorem readPower?_powerSpelling (exponent : Option Int) :
    readPower? (powerSpelling exponent) = some exponent := by
  cases exponent with
  | none => rfl
  | some exponent =>
      have letter : exponentSpelling exponent = 'e' :: (exponentSpelling exponent).tail := rfl
      rw [powerSpelling, letter, readPower?, readExponent?_tail, Option.map_some]

/-- What follows the digits of a numeral is no further digit. -/
theorem stopsAt_powerSpelling (exponent : Option Int) :
    StopsAt Char.isDigit (powerSpelling exponent) := by
  cases exponent with
  | none => simp [StopsAt, powerSpelling]
  | some exponent => simp [StopsAt, powerSpelling, exponentSpelling]

/-! ## Whole numerals -/

/-- A numeral without its sign is read back. -/
theorem readUnsigned?_digits (negative : Bool) (whole : Nat) (fraction : List (Fin 10))
    (exponent : Option Int) :
    readUnsigned? negative (digits whole ++ (pointSpelling fraction ++ powerSpelling exponent)) =
      some ⟨negative, whole, fraction, exponent⟩ := by
  have ofWhole : ∀ char ∈ digits whole, char.isDigit = true := fun _ => isDigit_of_mem_digits
  have noNeedlessZero : ¬ (digits whole = [] ∨
      ((digits whole).head? = some '0' ∧ (digits whole).length ≠ 1)) := by
    rintro (nothing | ⟨zero, long⟩)
    · exact digits_ne_nil whole nothing
    · obtain rfl := eq_zero_of_head?_digits zero
      exact long rfl
  have power := readPower?_powerSpelling exponent
  have powerStops := stopsAt_powerSpelling exponent
  by_cases noFraction : fraction = []
  · have wholeSplits := splitDigits_append ofWhole powerStops
    cases exponent with
    | none =>
        simp only [powerSpelling, List.append_nil] at wholeSplits
        simp [readUnsigned?, pointSpelling, noFraction, powerSpelling, wholeSplits, noNeedlessZero,
          readPower?]
    | some exponent =>
        simp only [powerSpelling, exponentSpelling] at wholeSplits power
        simp [readUnsigned?, pointSpelling, noFraction, powerSpelling, exponentSpelling,
          wholeSplits, noNeedlessZero, power]
  · have ofFraction : ∀ char ∈ fraction.map digitChar, char.isDigit = true := by simp
    have fractionSplits := splitDigits_append ofFraction powerStops
    have wholeSplits : splitDigits
        (digits whole ++ '.' :: (fraction.map digitChar ++ powerSpelling exponent)) = _ :=
      splitDigits_append ofWhole (by simp [StopsAt])
    have digitsBack : fraction.map (digitOf ∘ digitChar) = fraction := by
      have identity : digitOf ∘ digitChar = id := funext digitOf_digitChar
      rw [identity, List.map_id]
    simp [readUnsigned?, pointSpelling, noFraction, wholeSplits, fractionSplits, noNeedlessZero,
      power, digitsBack]

/-- A numeral is read back from its spelling. -/
theorem read?_spelling (numeral : Numeral) : read? numeral.spelling = some numeral := by
  obtain ⟨negative, whole, fraction, exponent⟩ := numeral
  have unsigned := readUnsigned?_digits negative whole fraction exponent
  cases negative with
  | true => exact unsigned
  | false =>
      obtain ⟨first, rest, split, isDigit⟩ := digits_eq_cons whole
      have notMinus : first ≠ '-' := ne_of_isDigit isDigit rfl
      simp only [spelling, split, Bool.false_eq_true, if_false, List.nil_append,
        List.cons_append] at unsigned ⊢
      rw [← unsigned, read?]
      simpa using notMinus

/-! ## Sizes -/

/-- Digits that fit into a word are taken one after the other, and no place is lost. -/
theorem pushWhole_digitOf {further : List Char} (digits : ∀ char ∈ further, char.isDigit = true)
    {value : Nat} (fits : Nat.ofDigitChars 10 further value < UInt64.size) (places : Int) :
    Significand.pushWhole ⟨value, places⟩ (further.map digitOf) =
      ⟨Nat.ofDigitChars 10 further value, places⟩ := by
  induction further generalizing value with
  | nil => rfl
  | cons char rest inductionHypothesis =>
      rw [List.forall_mem_cons] at digits
      have atMostNine := (Char.isDigit_iff_toNat.1 digits.1).2
      have digit : (digitOf char : Nat) = char.toNat - '0'.toNat := by
        refine Nat.mod_eq_of_lt ?_
        simp at atMostNine ⊢
        omega
      rw [Nat.ofDigitChars_cons] at fits ⊢
      have grows : 10 * value + (char.toNat - '0'.toNat) < UInt64.size := by
        rw [Nat.ofDigitChars_eq_ofDigitChars_zero] at fits
        have weight : 0 < 10 ^ rest.length := Nat.pow_pos (by decide)
        have places := Nat.le_mul_of_pos_left (10 * value + (char.toNat - '0'.toNat)) weight
        omega
      have room : value * 10 + (digitOf char : Nat) < UInt64.size := by rwa [digit, Nat.mul_comm]
      simp only [List.map_cons, Significand.pushWhole, Significand.push?, room, if_true]
      rw [digit, Nat.mul_comm value]
      exact inductionHypothesis digits.2 fits

/-- Four times a number that fits into a word is below the greatest power of two of a double. -/
theorem four_mul_shiftLeft_lt {value : Nat} (fits : value < UInt64.size) (places : Nat) :
    4 * (value <<< places) < 1 <<< (1024 + places) := by
  have small : 4 * value < 2 ^ 66 := by
    have word : 4 * UInt64.size = 2 ^ 66 := rfl
    omega
  calc 4 * (value <<< places) = 4 * value * 2 ^ places := by
        rw [Nat.shiftLeft_eq, Nat.mul_assoc]
    _ < 2 ^ 66 * 2 ^ places := Nat.mul_lt_mul_of_pos_right small (Nat.two_pow_pos places)
    _ = 2 ^ (66 + places) := (Nat.pow_add 2 66 places).symm
    _ ≤ 2 ^ (1024 + places) := Nat.pow_le_pow_right (by decide) (by omega)
    _ = 1 <<< (1024 + places) := by rw [Nat.shiftLeft_eq, Nat.one_mul]

/-- A natural number that fits into a word is not too large for a double. -/
theorem isTooLarge_ofNat {value : Nat} (fits : value < UInt64.size) :
    (ofNat value).isTooLarge = false := by
  have significand : (ofNat value).significand = ⟨value, 0⟩ := by
    have ofDigits : ∀ char ∈ digits value, char.isDigit = true := fun _ => isDigit_of_mem_digits
    have pushed := @pushWhole_digitOf (digits value) ofDigits 0
    rw [digits, Nat.ofDigitChars_ten_toDigits] at pushed
    exact pushed fits 0
  have one : doublePowerOfTen 0 = 1 := by decide
  have small : roundToDouble (roundToDouble (value <<< doublePlaces) 1 * 1) 1 <
      1 <<< (1024 + doublePlaces) := by
    have outer := roundToDouble_le (roundToDouble (value <<< doublePlaces) 1 * 1)
    have inner := roundToDouble_le (value <<< doublePlaces)
    have room := four_mul_shiftLeft_lt fits doublePlaces
    omega
  have noExponent : (ofNat value).exponent.getD 0 = 0 := rfl
  rw [Nat.mul_one] at small
  rcases Nat.eq_zero_or_pos value with rfl | positive
  · decide
  · simp [isTooLarge, doubleSize?, significand, Nat.ne_of_gt positive, noExponent, scaleDouble?,
      one, small]

end Numeral

end Lamplighter.Json
