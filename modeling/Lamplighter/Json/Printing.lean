import Lamplighter.Json.Value

/-!
# Writing JSON values

A value is written in one of two layouts: on one line without any blank, or with every item and
field on a line of its own, indented by two blanks a level. In both, an empty container is a pair of
brackets, and a text escapes quotes, backslashes and control characters and nothing else.
-/

namespace Lamplighter.Json

/-- The digit of a number below sixteen, in lower case. -/
def hexDigit (value : Nat) : Char := Nat.digitChar (value % 16)

/-- The spelling of one character of a text. -/
def escapedChar (char : Char) : List Char :=
  if char = '"' then ['\\', '"']
  else if char = '\\' then ['\\', '\\']
  else if char = '\x08' then ['\\', 'b']
  else if char = '\x0c' then ['\\', 'f']
  else if char = '\n' then ['\\', 'n']
  else if char = '\r' then ['\\', 'r']
  else if char = '\t' then ['\\', 't']
  else if char.toNat < 0x20 then
    ['\\', 'u', '0', '0', hexDigit (char.toNat / 16), hexDigit char.toNat]
  else [char]

/-- The spelling of a text. What is no string is spelt as a surrogate that stays alone. -/
def Text.spelling : Text → List Char
  | some text => '"' :: text.toList.flatMap escapedChar ++ ['"']
  | none => "\"\\ud800\"".toList

/-- The spelling of a scalar. -/
def Scalar.spelling : Scalar → List Char
  | .null => "null".toList
  | .bool true => "true".toList
  | .bool false => "false".toList
  | .number numeral => numeral.spelling
  | .text content => content.spelling

namespace Value

mutual

/-- A value on one line. -/
def compactChars : Value → List Char
  | .scalar leaf => leaf.spelling
  | .array [] => ['[', ']']
  | .array (item :: rest) => '[' :: item.compactChars ++ compactItems rest
  | .object [] => ['\x7b', '\x7d']
  | .object ((key, value) :: rest) =>
      '\x7b' :: Text.spelling key ++ ':' :: value.compactChars ++ compactFields rest

/-- The further items of an array, and its end. -/
def compactItems : List Value → List Char
  | [] => [']']
  | item :: rest => ',' :: item.compactChars ++ compactItems rest

/-- The further fields of an object, and its end. -/
def compactFields : List (Text × Value) → List Char
  | [] => ['\x7d']
  | (key, value) :: rest =>
      ',' :: Text.spelling key ++ ':' :: value.compactChars ++ compactFields rest

end

/-- The start of a line at a level of indentation. -/
def newLine (level : Nat) : List Char := '\n' :: List.replicate (2 * level) ' '

mutual

/-- A value over several lines, in a container at the given level. -/
def prettyChars (level : Nat) : Value → List Char
  | .scalar leaf => leaf.spelling
  | .array [] => ['[', ']']
  | .array (item :: rest) =>
      '[' :: newLine (level + 1) ++ item.prettyChars (level + 1) ++ prettyItems level rest
  | .object [] => ['\x7b', '\x7d']
  | .object ((key, value) :: rest) =>
      '\x7b' :: newLine (level + 1) ++ Text.spelling key ++ ':' :: ' ' ::
        value.prettyChars (level + 1) ++ prettyFields level rest

/-- The further items of an array at the given level, and its end. -/
def prettyItems (level : Nat) : List Value → List Char
  | [] => newLine level ++ [']']
  | item :: rest =>
      ',' :: newLine (level + 1) ++ item.prettyChars (level + 1) ++ prettyItems level rest

/-- The further fields of an object at the given level, and its end. -/
def prettyFields (level : Nat) : List (Text × Value) → List Char
  | [] => newLine level ++ ['\x7d']
  | (key, value) :: rest =>
      ',' :: newLine (level + 1) ++ Text.spelling key ++ ':' :: ' ' ::
        value.prettyChars (level + 1) ++ prettyFields level rest

end

/-- The text of a value on one line. -/
def compact (value : Value) : String := String.ofList value.compactChars

/-- The text of a value over several lines. -/
def pretty (value : Value) : String := String.ofList (value.prettyChars 0)

end Value

end Lamplighter.Json
