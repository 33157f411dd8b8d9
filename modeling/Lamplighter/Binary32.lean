/-!
# Binary floating point of 32 bits

A number is its bit pattern. Every finite number is a whole multiple of `2 ^ -149`, so sums,
products, quotients and roots are computed exactly on whole numbers and rounded once, to the nearest
number and in a tie to the one whose last bit is zero. Every NaN of an operation's operands is kept,
made quiet, the first operand's before the second's; a NaN that arithmetic makes has its sign bit
set.
-/

namespace Lamplighter

/-- A floating point number of 32 bits, as its bit pattern. -/
structure Binary32 where
  bits : UInt32
deriving DecidableEq, Repr

namespace Binary32

/-! ## Bit patterns -/

/-- The magnitude of infinity; a greater one is no number. -/
def infiniteMagnitude : Nat := 0x7f800000

/-- The bits without the sign. They order the magnitudes of all numbers. -/
def magnitude (value : Binary32) : Nat := value.bits.toNat % 0x80000000

/-- Whether the sign bit is set. -/
def isNegative (value : Binary32) : Bool := decide (0x80000000 ≤ value.bits.toNat)

/-- The number of a sign and a magnitude. -/
def ofMagnitude (negative : Bool) (magnitude : Nat) : Binary32 :=
  ⟨UInt32.ofNat (if negative then 0x80000000 + magnitude else magnitude)⟩

/-- Whether a bit pattern is no number. -/
def isNaN (value : Binary32) : Bool := decide (infiniteMagnitude < value.magnitude)

/-- Whether a number is positive or negative infinity. -/
def isInfinite (value : Binary32) : Bool := value.magnitude == infiniteMagnitude

/-- Whether a number is positive or negative zero. -/
def isZero (value : Binary32) : Bool := value.magnitude == 0

/-- Infinity of a sign. -/
def infinity (negative : Bool) : Binary32 := ofMagnitude negative infiniteMagnitude

/-- Zero of a sign. -/
def zero (negative : Bool) : Binary32 := ofMagnitude negative 0

/-- What arithmetic makes where there is no result. -/
def invalid : Binary32 := ⟨0xffc00000⟩

/-- The same pattern with the bit set that makes a NaN quiet. -/
def quieted (value : Binary32) : Binary32 := ⟨value.bits ||| 0x00400000⟩

/-- The multiple of `2 ^ -149` that a magnitude stands for. Infinity stands for a multiple above
that of every number. -/
def unitsOfMagnitude (magnitude : Nat) : Nat :=
  if magnitude < 0x800000 then magnitude
  else (0x800000 + magnitude % 0x800000) <<< (magnitude / 0x800000 - 1)

/-- The multiple of `2 ^ -149` that a number is. -/
def units (value : Binary32) : Int :=
  if value.isNegative then -(unitsOfMagnitude value.magnitude : Int)
  else unitsOfMagnitude value.magnitude

/-! ## Rounding -/

/-- The nearest whole number to a quotient; in a tie, the even one. -/
def roundToEven (numerator denominator : Nat) : Nat :=
  let floor := numerator / denominator
  let remainder := numerator % denominator
  if denominator < 2 * remainder ∨ (2 * remainder = denominator ∧ floor % 2 = 1) then floor + 1
  else floor

/-- The magnitude nearest to a quotient of multiples of `2 ^ -149`. Above `2 ^ 24` units the numbers
are `2 ^ excess` units apart; what rounds beyond the greatest number becomes infinite. -/
def roundedMagnitude (numerator denominator : Nat) : Nat :=
  let excess := (numerator / denominator).log2 - 23
  min infiniteMagnitude
    (excess * 0x800000 + roundToEven numerator (denominator <<< excess))

/-- The number nearest to a quotient of multiples of `2 ^ -149`. -/
def ofUnits (negative : Bool) (numerator denominator : Nat) : Binary32 :=
  ofMagnitude negative (roundedMagnitude numerator denominator)

/-- The number nearest to a fraction. -/
def ofFraction (negative : Bool) (numerator denominator : Nat) : Binary32 :=
  ofUnits negative (numerator <<< 149) denominator

/-- The number nearest to an integer. -/
def ofInt (value : Int) : Binary32 := ofFraction (decide (value < 0)) value.natAbs 1

/-- The number nearest to a natural number. -/
def ofNat (value : Nat) : Binary32 := ofFraction false value 1

instance {value : Nat} : OfNat Binary32 value := ⟨ofNat value⟩

/-! ## Arithmetic -/

/-- The NaN that an operation on two operands hands on, if one of them is a NaN. -/
def nanOf? (left right : Binary32) : Option Binary32 :=
  if left.isNaN then some left.quieted
  else if right.isNaN then some right.quieted
  else none

/-- The number of the opposite sign. -/
def neg (value : Binary32) : Binary32 := ⟨value.bits ^^^ 0x80000000⟩

/-- The sum of two numbers. A sum of zero is positive unless both numbers are negative zeros. -/
def sum (left right : Binary32) : Binary32 :=
  if left.isInfinite then
    if right.isInfinite ∧ left.isNegative ≠ right.isNegative then invalid else left
  else if right.isInfinite then
    right
  else
    let exact := left.units + right.units
    if exact = 0 then zero (left.isNegative && right.isNegative)
    else ofUnits (decide (exact < 0)) exact.natAbs 1

/-- Addition. -/
def add (left right : Binary32) : Binary32 := (nanOf? left right).getD (sum left right)

/-- Subtraction. -/
def sub (left right : Binary32) : Binary32 := (nanOf? left right).getD (sum left right.neg)

/-- Multiplication. -/
def mul (left right : Binary32) : Binary32 :=
  let negative := left.isNegative != right.isNegative
  (nanOf? left right).getD <|
    if left.isInfinite ∨ right.isInfinite then
      if left.isZero ∨ right.isZero then invalid else infinity negative
    else
      ofUnits negative (left.units.natAbs * right.units.natAbs) (1 <<< 149)

/-- Division. -/
def div (left right : Binary32) : Binary32 :=
  let negative := left.isNegative != right.isNegative
  (nanOf? left right).getD <|
    if (left.isInfinite ∧ right.isInfinite) ∨ (left.isZero ∧ right.isZero) then invalid
    else if left.isInfinite ∨ right.isZero then infinity negative
    else if right.isInfinite then zero negative
    else ofUnits negative (left.units.natAbs <<< 149) right.units.natAbs

instance : Neg Binary32 := ⟨neg⟩

instance : Add Binary32 := ⟨add⟩

instance : Sub Binary32 := ⟨sub⟩

instance : Mul Binary32 := ⟨mul⟩

instance : Div Binary32 := ⟨div⟩

/-- Find the root of a number bit by bit: add every power of two, from `2 ^ bits` downwards, with
which the square stays within the number. -/
def floorRootFrom (value root : Nat) : (bits : Nat) → Nat
  | 0 => if (root + 1) * (root + 1) ≤ value then root + 1 else root
  | bits + 1 =>
      let next := root + (1 <<< (bits + 1))
      floorRootFrom value (if next * next ≤ value then next else root) bits

/-- The greatest natural number whose square is not above a natural number. -/
def floorRoot (value : Nat) : Nat := floorRootFrom value 0 (value.log2 / 2)

/-- The square root. It lies between two whole numbers of units; half a unit more than the lower one
stands for every root strictly between them, because no number is that near to a tie. -/
def sqrt (value : Binary32) : Binary32 :=
  if value.isNaN then value.quieted
  else if value.isZero then value
  else if value.isNegative then invalid
  else if value.isInfinite then value
  else
    let square := value.units.natAbs <<< 149
    let floor := floorRoot square
    ofUnits false (2 * floor + if floor * floor = square then 0 else 1) 2

/-! ## Order -/

/-- Whether a number is less than another. Nothing is less than a NaN, nor a NaN than anything. -/
def lt (left right : Binary32) : Bool :=
  !left.isNaN && !right.isNaN && decide (left.units < right.units)

/-- Whether a number is at most another. -/
def le (left right : Binary32) : Bool :=
  !left.isNaN && !right.isNaN && decide (left.units ≤ right.units)

/-- Whether two numbers are equal; both zeros are, and no NaN is equal to anything. -/
def eq (left right : Binary32) : Bool :=
  !left.isNaN && !right.isNaN && decide (left.units = right.units)

/-- The lesser of two numbers, or the other one if one is a NaN. -/
def min (left right : Binary32) : Binary32 :=
  if left.isNaN then right
  else if right.isNaN then left
  else if right.lt left then right
  else left

/-- The greater of two numbers, or the other one if one is a NaN. -/
def max (left right : Binary32) : Binary32 :=
  if left.isNaN then right
  else if right.isNaN then left
  else if left.lt right then right
  else left

/-- The nearest number between two bounds; a NaN stays what it is. -/
def clamp (value lower upper : Binary32) : Binary32 :=
  let raised := if value.lt lower then lower else value
  if upper.lt raised then upper else raised

/-- The place of a bit pattern in the total order of all of them: negative NaNs first, then the
numbers from negative infinity to infinity with negative zero before zero, then positive NaNs. -/
def rank (value : Binary32) : Int :=
  if value.isNegative then -(value.magnitude : Int) - 1 else value.magnitude

/-- Whether a number is neither infinite nor a NaN. -/
def isFinite (value : Binary32) : Bool := decide (value.magnitude < infiniteMagnitude)

end Binary32

end Lamplighter
