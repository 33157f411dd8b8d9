import Lamplighter.Json.Quotation
import Lamplighter.Json.Value

/-!
# Faults of JSON texts

A text is refused either because it is no JSON text or because its value is not one of the type that
is read. A `Flaw` is the first kind of cause and a `Refusal` the second. A fault is a cause together
with the place at which the reader notices it.
-/

namespace Lamplighter.Json

/-! ## Places -/

/-- A place between two bytes of a text. -/
structure Place where
  /-- The line, counted from one. -/
  line : Nat
  /-- The number of bytes of that line that stand before the place. -/
  column : Nat
deriving DecidableEq, Repr

namespace Place

/-- The place in front of a text. -/
def start : Place := ⟨1, 0⟩

/-- The place behind a character. -/
def after (place : Place) (char : Char) : Place :=
  if char = '\n' then ⟨place.line + 1, 0⟩
  else { place with column := place.column + char.utf8Size }

/-- The place behind the first bytes of a text, which may lie inside a character. -/
def afterBytes (place : Place) (bytes : Nat) : List Char → Place
  | [] => place
  | char :: rest =>
      if bytes = 0 then place
      else if bytes < char.utf8Size then { place with column := place.column + bytes }
      else (place.after char).afterBytes (bytes - char.utf8Size) rest

end Place

/-! ## Flaws -/

/-- What can be wrong with a text that is no JSON text. -/
inductive Flaw where
  | endInList
  | endInObject
  | endInText
  | endInValue
  | noColon
  | noListEnd
  | noObjectEnd
  | badWord
  | noValue
  | badEscape
  | badNumber
  | numberTooLarge
  | controlCharacter
  | keyNotText
  | loneSurrogate
  | cutSurrogates
  | trailingComma
  | trailingCharacters
  | tooDeep
deriving DecidableEq, Repr

/-- The explanation of a flaw. -/
def Flaw.message : Flaw → String
  | .endInList => "EOF while parsing a list"
  | .endInObject => "EOF while parsing an object"
  | .endInText => "EOF while parsing a string"
  | .endInValue => "EOF while parsing a value"
  | .noColon => "expected `:`"
  | .noListEnd => "expected `,` or `]`"
  | .noObjectEnd => "expected `,` or `\x7d`"
  | .badWord => "expected ident"
  | .noValue => "expected value"
  | .badEscape => "invalid escape"
  | .badNumber => "invalid number"
  | .numberTooLarge => "number out of range"
  | .controlCharacter => "control character (\\u0000-\\u001F) found while parsing a string"
  | .keyNotText => "key must be a string"
  | .loneSurrogate => "lone leading surrogate in hex escape"
  | .cutSurrogates => "unexpected end of hex escape"
  | .trailingComma => "trailing comma"
  | .trailingCharacters => "trailing characters"
  | .tooDeep => "recursion limit exceeded"

/-! ## Refusals -/

/-- What a value is, without the parts of an array or object. -/
inductive Shape where
  | scalar (leaf : Scalar)
  | array
  | object
deriving DecidableEq, Repr

/-- The shape of a value. -/
def Value.shape : Value → Shape
  | .scalar leaf => .scalar leaf
  | .array _ => .array
  | .object _ => .object

/-- What a message calls a value. A number that fits into 64 bits is an integer, and every other one
is the double that it stands for. -/
def Shape.description : Shape → String
  | .scalar .null => "null"
  | .scalar (.bool value) => s!"boolean `{value}`"
  | .scalar (.number numeral) =>
      match numeral.toWord? with
      | some number => s!"integer `{number}`"
      | none => s!"floating point `{String.ofList numeral.doubleSpelling}`"
  | .scalar (.text content) => "string " ++ quoted (content.getD "")
  | .array => "sequence"
  | .object => "map"

/-- Why a value is not one of a type. What was expected is given in the words of the message. -/
inductive Refusal where
  | wrongType (found : Shape) (expected : String)
  /-- An integer that is out of range. -/
  | wrongNumber (found : Int) (expected : String)
  /-- An array with a number of items for which there is no use. -/
  | wrongLength (found : Nat) (expected : String)
  | unknownWord (found : String) (known : List String)
  | missingField (name : String)
  | repeatedField (name : String)
deriving DecidableEq, Repr

/-- The explanation of a refusal. -/
def Refusal.message : Refusal → String
  | .wrongType found expected => s!"invalid type: {found.description}, expected {expected}"
  | .wrongNumber found expected => s!"invalid value: integer `{found}`, expected {expected}"
  | .wrongLength found expected => s!"invalid length {found}, expected {expected}"
  | .unknownWord found known =>
      let choices := String.intercalate ", " (known.map fun word => s!"`{word}`")
      s!"unknown variant `{found}`, expected one of {choices}"
  | .missingField name => s!"missing field `{name}`"
  | .repeatedField name => s!"duplicate field `{name}`"

/-! ## Faults -/

/-- Why a text is refused. -/
inductive Cause where
  | flaw (cause : Flaw)
  | refusal (cause : Refusal)
deriving DecidableEq, Repr

/-- The explanation of a cause. -/
def Cause.message : Cause → String
  | .flaw cause => cause.message
  | .refusal cause => cause.message

/-- Why a text is refused, and where that is noticed. -/
structure Fault where
  cause : Cause
  place : Place
deriving DecidableEq, Repr

/-- The explanation of a fault. -/
def Fault.message (fault : Fault) : String :=
  s!"{fault.cause.message} at line {fault.place.line} column {fault.place.column}"

end Lamplighter.Json
