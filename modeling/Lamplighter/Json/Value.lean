import Lamplighter.Json.Double

/-!
# JSON values

A value is a scalar, an array or an object whose fields stand in the order of the text, equal keys
included. A text that spells an unpaired surrogate is well formed but stands for no string, so the
text of a string and of a key may be absent; a decoder that looks at such a text refuses it, and one
that skips it does not.
-/

namespace Lamplighter.Json

/-- The characters between two quotes, unless they spell an unpaired surrogate. -/
abbrev Text := Option String

/-- A value without parts. -/
inductive Scalar where
  | null
  | bool (value : Bool)
  | number (numeral : Numeral)
  | text (text : Text)
deriving DecidableEq, Repr

/-- A JSON value. -/
inductive Value where
  | scalar (leaf : Scalar)
  | array (items : List Value)
  | object (fields : List (Text × Value))

/-- The levels of arrays and objects that a text may have where everything in it is kept. -/
def nestingLimit : Nat := 127

namespace Value

/-- The value of a string. -/
def string (text : String) : Value := .scalar (.text (some text))

/-- The value of a truth value. -/
def bool (value : Bool) : Value := .scalar (.bool value)

/-- The value of a natural number. -/
def nat (value : Nat) : Value := .scalar (.number (.ofNat value))

/-- The value of an integer. -/
def int (value : Int) : Value := .scalar (.number (.ofInt value))

/-- The null value. -/
def null : Value := .scalar .null

/-- An object whose keys are all strings. -/
def record (fields : List (String × Value)) : Value :=
  .object (fields.map fun field => (some field.1, field.2))

mutual

/-- How many arrays and objects a value has inside one another. -/
def nesting : Value → Nat
  | .scalar _ => 0
  | .array items => 1 + nestingOf items
  | .object fields => 1 + nestingOfFields fields

/-- The deepest nesting among the items of an array. -/
def nestingOf : List Value → Nat
  | [] => 0
  | item :: rest => max item.nesting (nestingOf rest)

/-- The deepest nesting among the fields of an object. -/
def nestingOfFields : List (Text × Value) → Nat
  | [] => 0
  | (_, value) :: rest => max value.nesting (nestingOfFields rest)

end

/-- A scalar that can be kept: no number is too large for a double, and every text is a string. -/
def isSoundScalar : Scalar → Bool
  | .null => true
  | .bool _ => true
  | .number numeral => !numeral.isTooLarge
  | .text text => text.isSome

mutual

/-- A value that can be kept: each of its scalars and keys can be kept. -/
def isSound : Value → Bool
  | .scalar leaf => isSoundScalar leaf
  | .array items => areSound items
  | .object fields => areSoundFields fields

/-- Every item can be kept. -/
def areSound : List Value → Bool
  | [] => true
  | item :: rest => item.isSound && areSound rest

/-- Every field can be kept, with its key. -/
def areSoundFields : List (Text × Value) → Bool
  | [] => true
  | (key, value) :: rest => key.isSome && value.isSound && areSoundFields rest

end

end Value

end Lamplighter.Json
