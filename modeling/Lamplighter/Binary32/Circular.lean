import Lamplighter.Binary32

/-!
# Sine and cosine

An angle is taken exactly, as a whole multiple of `2 ^ -512`. Quarter turns are removed with a value
of π to as many bits, the series of sine and cosine are summed for the rest, and the result is
rounded once. The errors of all this stay far below what a rounding to 24 bits can notice.
-/

namespace Lamplighter.Binary32

namespace Circular

/-- One, as a multiple of `2 ^ -512`. -/
def one : Nat := 1 <<< 512

/-- The sum of `power / index - power / (base ^ 2 (index + 2)) + …`. -/
def arctangentSeries (base power index : Nat) : (terms : Nat) → Int
  | 0 => 0
  | terms + 1 =>
      (power / index : Nat) - arctangentSeries base (power / (base * base)) (index + 2) terms

/-- The arc tangent of the reciprocal of a number that is at least five. -/
def arctangentOfReciprocal (base : Nat) : Int := arctangentSeries base (one / base) 1 128

/-- A quarter turn: `π / 2 = 2 (4 arctan 1/5 - arctan 1/239)`. -/
def quarterTurn : Nat :=
  (2 * (4 * arctangentOfReciprocal 5 - arctangentOfReciprocal 239)).toNat

/-- The sum of `1 - square / ((index + 1) (index + 2)) (1 - …)`. -/
def alternatingSeries (square index : Nat) : (terms : Nat) → Nat
  | 0 => one
  | terms + 1 =>
      one - square * alternatingSeries square (index + 2) terms /
        (one * ((index + 1) * (index + 2)))

/-- The cosine of an angle of at most half a quarter turn. -/
def smallCosine (angle : Nat) : Nat := alternatingSeries (angle * angle / one) 0 64

/-- The sine of an angle of at most half a quarter turn. -/
def smallSine (angle : Nat) : Nat :=
  angle * alternatingSeries (angle * angle / one) 1 64 / one

/-- The number nearest to a multiple of `2 ^ -512`. -/
def rounded (negative : Bool) (value : Nat) : Binary32 := ofFraction negative value one

/-- The sine of an angle that lies a number of quarter turns ahead. -/
def sineAhead (quarters : Nat) (angle : Int) : Binary32 :=
  let behind := decide (angle < 0)
  match quarters % 4 with
  | 0 => rounded behind (smallSine angle.natAbs)
  | 1 => rounded false (smallCosine angle.natAbs)
  | 2 => rounded (!behind) (smallSine angle.natAbs)
  | _ => rounded true (smallCosine angle.natAbs)

/-- The sine of a finite angle, after a number of additional quarter turns. -/
def sineOf (angle : Binary32) (additional : Nat) : Binary32 :=
  let exact := angle.units * (1 <<< 363 : Nat)
  let quarters := (2 * exact + quarterTurn) / (2 * quarterTurn : Int)
  sineAhead ((quarters % 4).toNat + additional) (exact - quarters * quarterTurn)

end Circular

/-- The number nearest to π. -/
def pi : Binary32 := ⟨0x40490fdb⟩

/-- The number nearest to half of π. -/
def halfPi : Binary32 := ⟨0x3fc90fdb⟩

/-- The sine of an angle. A zero is its own sine, and an infinite angle has none. -/
def sin (angle : Binary32) : Binary32 :=
  if angle.isNaN then angle.quieted
  else if angle.isInfinite then invalid
  else if angle.isZero then angle
  else Circular.sineOf angle 0

/-- The cosine of an angle. An infinite angle has none. -/
def cos (angle : Binary32) : Binary32 :=
  if angle.isNaN then angle.quieted
  else if angle.isInfinite then invalid
  else Circular.sineOf angle 1

end Lamplighter.Binary32
