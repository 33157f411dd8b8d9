/-!
# Numbers in JSON texts

A numeral keeps what its spelling says: a sign, a whole part, the digits behind a point and an
exponent. An integer is a numeral without point and exponent, and minus zero is not one. Whether a
numeral is too large for a double is decided from the digits, without computing the double.
-/

namespace Lamplighter.Json

/-- A number as a JSON text spells it. -/
structure Numeral where
  negative : Bool
  whole : Nat
  /-- The digits behind the point; none where there is no point. -/
  fraction : List (Fin 10)
  exponent : Option Int
deriving DecidableEq, Repr

namespace Numeral

/-- The numeral of a natural number. -/
def ofNat (value : Nat) : Numeral := ⟨false, value, [], none⟩

/-- The numeral of an integer. -/
def ofInt (value : Int) : Numeral := ⟨decide (value < 0), value.natAbs, [], none⟩

/-- The integer that a numeral spells. A point or an exponent spells no integer, and neither does
a minus sign in front of zero. -/
def toInt? (numeral : Numeral) : Option Int :=
  if numeral.fraction = [] ∧ numeral.exponent = none then
    if numeral.negative then
      if numeral.whole = 0 then none else some (-(numeral.whole : Int))
    else
      some numeral.whole
  else
    none

/-- The integer of 64 bits, with or without a sign, that a numeral spells. -/
def toWord? (numeral : Numeral) : Option Int :=
  match numeral.toInt? with
  | some number =>
      if Int64.minValue.toInt ≤ number ∧ number < UInt64.size then some number else none
  | none => none

/-- The natural number that a numeral spells. -/
def toNat? (numeral : Numeral) : Option Nat :=
  match numeral.toInt? with
  | some (.ofNat value) => some value
  | _ => none

/-- The character of a digit. -/
def digitChar (digit : Fin 10) : Char := Nat.digitChar digit

/-- The digits of a natural number in base ten. -/
def digits (value : Nat) : List Char := Nat.toDigits 10 value

/-- The natural number that a list of digits spells. -/
def valueOf (digits : List Char) : Nat := Nat.ofDigitChars 10 digits 0

/-- The digit that a character stands for. -/
def digitOf (char : Char) : Fin 10 := Fin.ofNat 10 (char.toNat - '0'.toNat)

/-- The spelling of an exponent. -/
def exponentSpelling (exponent : Int) : List Char :=
  'e' :: if exponent < 0 then '-' :: digits exponent.natAbs else digits exponent.natAbs

/-- The spelling of the exponent of a numeral, if it has one. -/
def powerSpelling : Option Int → List Char
  | none => []
  | some exponent => exponentSpelling exponent

/-- The spelling of the digits behind the point of a numeral, if it has any. -/
def pointSpelling (fraction : List (Fin 10)) : List Char :=
  if fraction = [] then [] else '.' :: fraction.map digitChar

/-- The spelling of a numeral. -/
def spelling (numeral : Numeral) : List Char :=
  let sign := if numeral.negative then ['-'] else []
  sign ++ (digits numeral.whole ++
    (pointSpelling numeral.fraction ++ powerSpelling numeral.exponent))

/-- The leading digits of a text and what follows them. -/
def splitDigits (text : List Char) : List Char × List Char :=
  (text.takeWhile Char.isDigit, text.dropWhile Char.isDigit)

/-- Read an exponent, which must have a digit and must end the text. -/
def readExponent? (text : List Char) : Option Int :=
  let (negative, unsigned) :=
    match text with
    | '-' :: rest => (true, rest)
    | '+' :: rest => (false, rest)
    | _ => (false, text)
  if unsigned ≠ [] ∧ unsigned.all Char.isDigit then
    let size : Int := valueOf unsigned
    some (if negative then -size else size)
  else
    none

/-- Read what follows the digits of a numeral: an exponent or nothing. -/
def readPower? (text : List Char) : Option (Option Int) :=
  match text with
  | [] => some none
  | 'e' :: rest => (readExponent? rest).map some
  | 'E' :: rest => (readExponent? rest).map some
  | _ => none

/-- Read what follows the sign of a numeral. A whole part has no needless zero in front, and a point
has a digit behind it. -/
def readUnsigned? (negative : Bool) (unsigned : List Char) : Option Numeral :=
  let (whole, rest) := splitDigits unsigned
  if whole = [] ∨ (whole.head? = some '0' ∧ whole.length ≠ 1) then
    none
  else
    match rest with
    | '.' :: behind =>
        let (fraction, power) := splitDigits behind
        if fraction = [] then
          none
        else
          (readPower? power).map fun exponent =>
            ⟨negative, valueOf whole, fraction.map digitOf, exponent⟩
    | _ => (readPower? rest).map fun exponent => ⟨negative, valueOf whole, [], exponent⟩

/-- Read a whole text as a numeral. -/
def read? : List Char → Option Numeral
  | '-' :: unsigned => readUnsigned? true unsigned
  | unsigned => readUnsigned? false unsigned

end Numeral

end Lamplighter.Json
