import Lamplighter.Json.Numeral

/-!
# Numbers as doubles

A numeral stands for a double, which is not always the nearest one: its significand and its power of
ten are rounded to doubles, and so is their product or quotient. All of this is computed exactly.
The size of a double is counted in units of `2 ^ -1074`, the smallest positive double, so that every
finite size is a natural number.

In the other direction a double is spelt with the fewest digits that are rounded to it, and with the
nearest of those.
-/

namespace Lamplighter.Json

/-- The binary places behind the point of a double that is counted in units. -/
def doublePlaces : Nat := 1074

/-- Round the quotient of two natural numbers, which counts units, to the nearest double, an even
significand winning a tie. A double has 53 significant bits and no part of a unit. -/
def roundToDouble (dividend divisor : Nat) : Nat :=
  let spacing := 1 <<< ((dividend / divisor).log2 + 1 - 53)
  let step := divisor * spacing
  let floor := dividend / step
  let remainder := dividend % step
  let roundUp := step < 2 * remainder ∨ (2 * remainder = step ∧ floor % 2 = 1)
  (if roundUp then floor + 1 else floor) * spacing

/-- The double of a power of ten. Here it counts ones and not units. -/
def doublePowerOfTen (power : Nat) : Nat := roundToDouble (Nat.pow 10 power) 1

/-- A size times a power of ten, or none if that is too large for a double. No double is `10 ^ 309`
or more, and a size is divided by at most `10 ^ 308` at once; a third division would leave nothing
of any significand. -/
def scaleDouble? (size : Nat) (power : Int) : Option Nat :=
  if 308 < power then
    none
  else if 0 ≤ power then
    let product := roundToDouble (size * doublePowerOfTen power.toNat) 1
    if product < 1 <<< (1024 + doublePlaces) then some product else none
  else if -308 ≤ power then
    some (roundToDouble size (doublePowerOfTen (-power).toNat))
  else if -616 ≤ power then
    some (roundToDouble (roundToDouble size (doublePowerOfTen 308))
      (doublePowerOfTen (-power - 308).toNat))
  else
    some 0

namespace Numeral

/-- The digits of a numeral that count for its size: as many as fit into 64 bits, and the number of
places by which they have to be moved to the left. -/
structure Significand where
  value : Nat
  places : Int

/-- Take one more digit, if there is room for it. -/
def Significand.push? (significand : Significand) (digit : Nat) : Option Significand :=
  let value := significand.value * 10 + digit
  if value < UInt64.size then some { significand with value } else none

/-- Take the digits of a whole part. Once a digit does not fit, the rest only counts as places. -/
def Significand.pushWhole (significand : Significand) : List (Fin 10) → Significand
  | [] => significand
  | digit :: rest =>
      match significand.push? digit with
      | some longer => longer.pushWhole rest
      | none => { significand with places := significand.places + (rest.length + 1) }

/-- Take the digits behind a point, up to the first that does not fit. -/
def Significand.pushFraction (significand : Significand) : List (Fin 10) → Significand
  | [] => significand
  | digit :: rest =>
      match significand.push? digit with
      | some longer => { longer with places := longer.places - 1 }.pushFraction rest
      | none => significand

/-- The significand of a numeral, without regard to its exponent. -/
def significand (numeral : Numeral) : Significand :=
  let whole := (digits numeral.whole).map digitOf
  (Significand.pushWhole ⟨0, 0⟩ whole).pushFraction numeral.fraction

/-- The size of the double that a numeral stands for, or none if it is too large. An exponent beyond
31 bits is not even added to the places. -/
def doubleSize? (numeral : Numeral) : Option Nat :=
  let ⟨value, places⟩ := numeral.significand
  let exponent := numeral.exponent.getD 0
  if value = 0 then
    some 0
  else if 0x80000000 ≤ exponent then
    none
  else
    scaleDouble? (roundToDouble (value <<< doublePlaces) 1) (places + exponent)

/-- A numeral is too large for a double. -/
def isTooLarge (numeral : Numeral) : Bool := numeral.doubleSize?.isNone

end Numeral

/-- A natural number times a power of ten. -/
structure Decimal where
  significand : Nat
  power : Int

namespace Decimal

/-- The size of the double that is nearest to a decimal. -/
def doubleSize (decimal : Decimal) : Nat :=
  roundToDouble ((decimal.significand * Nat.pow 10 decimal.power.toNat) <<< doublePlaces)
    (Nat.pow 10 (-decimal.power).toNat)

/-- The power of ten of the first digit of a positive double. No double is so small that it would
vanish when its point is moved by 400 digits. -/
def leadingPower (size : Nat) : Int :=
  (Numeral.digits ((size * Nat.pow 10 400) >>> doublePlaces)).length - 401

/-- The decimals with a number of digits below and above a positive double, the nearer one first and
an even one in front of an odd one that is as near. -/
def neighbours (size count : Nat) : List Decimal :=
  let power := leadingPower size + 1 - count
  let dividend := size * Nat.pow 10 (-power).toNat
  let divisor := Nat.pow 10 power.toNat <<< doublePlaces
  let floor := dividend / divisor
  let remainder := dividend % divisor
  let below : Decimal := ⟨floor, power⟩
  let above : Decimal := ⟨floor + 1, power⟩
  if divisor < 2 * remainder ∨ (2 * remainder = divisor ∧ floor % 2 = 1) then [above, below]
  else [below, above]

/-- A zero that a carry has left at the end is dropped. -/
def withoutTrailingZero (decimal : Decimal) : Decimal :=
  if decimal.significand % 10 = 0 then ⟨decimal.significand / 10, decimal.power + 1⟩ else decimal

/-- The shortest decimal that is rounded to a double, unless that is zero. Seventeen digits always
suffice. -/
def shortest? (size : Nat) : Option Decimal :=
  if size = 0 then
    none
  else
    ((List.range 17).findSome? fun fewer =>
      (neighbours size (fewer + 1)).find? fun decimal => decimal.doubleSize = size).map
        withoutTrailingZero

/-- The spelling of a positive decimal: with a point where it stands among the first sixteen digits
or not far in front of them, and with an exponent elsewhere. -/
def spelling (decimal : Decimal) : List Char :=
  let digits := Numeral.digits decimal.significand
  let point := digits.length + decimal.power
  if 0 ≤ decimal.power ∧ point ≤ 16 then
    digits ++ List.replicate decimal.power.toNat '0' ++ ['.', '0']
  else if 0 < point ∧ point ≤ 16 then
    digits.take point.toNat ++ '.' :: digits.drop point.toNat
  else if -5 < point ∧ point ≤ 0 then
    '0' :: '.' :: List.replicate (-point).toNat '0' ++ digits
  else
    let fraction := digits.drop 1
    let sign := if point ≤ 0 then '-' else '+'
    digits.take 1 ++ (if fraction = [] then [] else '.' :: fraction) ++
      'e' :: sign :: Numeral.digits (point - 1).natAbs

end Decimal

/-- The spelling of the double that a numeral stands for. -/
def Numeral.doubleSpelling (numeral : Numeral) : List Char :=
  let sign := if numeral.negative then ['-'] else []
  match numeral.doubleSize?.bind Decimal.shortest? with
  | some decimal => sign ++ decimal.spelling
  | none => sign ++ ['0', '.', '0']

end Lamplighter.Json
