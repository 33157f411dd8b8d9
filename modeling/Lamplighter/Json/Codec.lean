import Lamplighter.Json.Printing
import Lamplighter.Json.Reading

/-!
# Codecs

A codec ties a type to JSON values, in both directions. Reading is not strict about form: a record
may be an object with its fields in any order, beside fields that it does not know, or an array with
its fields in the order of their declaration; a name may be a text or an object with that name as
its only key. Writing uses one form. What is out of range, of the wrong kind, given twice or missing
is refused.
-/

namespace Lamplighter.Json

/-- How values of a type are written as JSON values and read from them. -/
class Codec (α : Type) where
  encode : α → Value
  decode? : Value → Option α

/-- The text of a value of a type. -/
def write {α : Type} [Codec α] (value : α) : String := (Codec.encode value).compact

/-- The value of a type that a text spells. -/
def read? {α : Type} [Codec α] (text : String) : Option α :=
  (Value.read? text).bind Codec.decode?

namespace Value

/-- The string of a value. -/
def string? : Value → Option String
  | .scalar (.text text) => text
  | _ => none

/-- The integer of a value. -/
def int? : Value → Option Int
  | .scalar (.number numeral) => numeral.toInt?
  | _ => none

/-- The integer of 64 bits, with or without a sign, of a value. -/
def word? : Value → Option Int
  | .scalar (.number numeral) => numeral.toWord?
  | _ => none

/-- The natural number of a value, if it is below a bound. -/
def natBelow? (bound : Nat) (value : Value) : Option Nat :=
  match value.int? with
  | some (.ofNat number) => if number < bound then some number else none
  | _ => none

/-- The items of an array. -/
def items? : Value → Option (List Value)
  | .array items => some items
  | _ => none

/-- The values of the fields of a record, in the order in which their names are given; a field that
the record does not have has none. Every key has to be a string, and no field is given twice. -/
def fields? (names : List String) : Value → Option (List (Option Value))
  | .scalar _ => none
  | .array items =>
      if items.length ≤ names.length then
        some (items.map some ++ List.replicate (names.length - items.length) none)
      else
        none
  | .object fields =>
      if fields.all (fun field => field.1.isSome) ∧
          names.all (fun name => fields.countP (fun field => field.1 == some name) ≤ 1) then
        some (names.map fun name => fields.lookup (some name))
      else
        none

/-- The name that a value spells. -/
def name? : Value → Option String
  | .scalar (.text text) => text
  | .object [(key, .scalar .null)] => key
  | _ => none

end Value

instance : Codec Bool where
  encode := .bool
  decode?
    | .scalar (.bool value) => some value
    | _ => none

instance : Codec String where
  encode := .string
  decode? := Value.string?

instance : Codec UInt8 where
  encode value := .nat value.toNat
  decode? value := (value.natBelow? UInt8.size).map UInt8.ofNat

instance : Codec UInt32 where
  encode value := .nat value.toNat
  decode? value := (value.natBelow? UInt32.size).map UInt32.ofNat

instance : Codec Int32 where
  encode value := .int value.toInt
  decode? value :=
    match value.int? with
    | some number =>
        if Int32.minValue.toInt ≤ number ∧ number ≤ Int32.maxValue.toInt then
          some (Int32.ofInt number)
        else
          none
    | none => none

/-- The number of rows or columns of something: a natural number of 64 bits. -/
abbrev sizeCodec : Codec Nat where
  encode := .nat
  decode? := Value.natBelow? UInt64.size

instance {α : Type} [Codec α] : Codec (List α) where
  encode items := .array (items.map Codec.encode)
  decode? value := value.items?.bind fun items => items.mapM Codec.decode?

/-- The codec of a type whose values are known by their names. -/
abbrev namesCodec {α : Type} [DecidableEq α] (all : List α) (name : α → String) : Codec α where
  encode value := .string (name value)
  decode? value := value.name?.bind fun spelt => all.find? fun candidate => name candidate = spelt

/-- Decode a field that has to be there. -/
def required? {α : Type} [Codec α] (field : Option Value) : Option α :=
  field.bind Codec.decode?

/-- Decode a field, or take a default where there is none. -/
def optional? {α : Type} [Codec α] (default : α) (field : Option Value) : Option α :=
  match field with
  | none => some default
  | some value => Codec.decode? value

end Lamplighter.Json
