import Lamplighter.Json.Value

/-!
# Tokens of a JSON text

A text is scanned one character at a time. What a scanner has to remember between two characters is
a `Scan`: whether it stands between tokens, inside a word or number, inside a text, behind a
backslash, or inside the four digits of an escaped code unit. Blanks separate tokens and are
dropped; every other character belongs to exactly one token.
-/

namespace Lamplighter.Json

/-- A token of a JSON text. -/
inductive Token where
  | openArray
  | closeArray
  | openObject
  | closeObject
  | comma
  | colon
  | scalar (scalar : Scalar)
deriving DecidableEq

/-- The part of a text that has been read: its characters, newest first, and a leading surrogate
that still waits for its trailing one. There is no draft once a surrogate has stayed alone. -/
structure Draft where
  newestFirst : List Char
  leading : Option Nat
deriving DecidableEq

namespace Draft

/-- The draft of a text of which nothing has been read. -/
def empty : Draft := ⟨[], none⟩

/-- Add a character. A surrogate that waited before it stays alone. -/
def push (draft : Draft) (char : Char) : Option Draft :=
  match draft.leading with
  | none => some { draft with newestFirst := char :: draft.newestFirst }
  | some _ => none

/-- The character of a pair of surrogates. -/
def paired (leading trailing : Nat) : Char :=
  Char.ofNat (0x10000 + (leading - 0xd800) * 0x400 + (trailing - 0xdc00))

/-- Add an escaped code unit: a character, or one half of a pair of surrogates. -/
def pushUnit (draft : Draft) (unit : Nat) : Option Draft :=
  let isLeading := 0xd800 ≤ unit ∧ unit < 0xdc00
  let isTrailing := 0xdc00 ≤ unit ∧ unit < 0xe000
  match draft.leading with
  | some leading =>
      if isTrailing then some ⟨paired leading unit :: draft.newestFirst, none⟩ else none
  | none =>
      if isLeading then some { draft with leading := some unit }
      else if isTrailing then none
      else draft.push (Char.ofNat unit)

/-- The string that a draft has become at the closing quote. -/
def finish (draft : Draft) : Text :=
  match draft.leading with
  | none => some (String.ofList draft.newestFirst.reverse)
  | some _ => none

end Draft

/-- What a scanner remembers between two characters. -/
inductive Scan where
  /-- Between two tokens. -/
  | between
  /-- Inside a word or a number, of which the given characters have been read, newest first. -/
  | word (newestFirst : List Char)
  /-- Inside a text. -/
  | text (draft : Option Draft)
  /-- Behind a backslash in a text. -/
  | escape (draft : Option Draft)
  /-- Inside an escaped code unit, with the digits still due and the value of those read. -/
  | unit (draft : Option Draft) (due value : Nat)
deriving DecidableEq

namespace Scan

/-- The characters of words and numbers. -/
def isWordChar (char : Char) : Bool :=
  char.isAlphanum || char == '+' || char == '-' || char == '.'

/-- The blanks that may stand between tokens. -/
def isBlank (char : Char) : Bool :=
  char == ' ' || char == '\n' || char == '\r' || char == '\t'

/-- The scalar that a word or number spells. -/
def scalarOf? (word : List Char) : Option Scalar :=
  if word = "null".toList then some .null
  else if word = "true".toList then some (.bool true)
  else if word = "false".toList then some (.bool false)
  else (Numeral.read? word).map .number

/-- The value of a hexadecimal digit. -/
def hexValue? (char : Char) : Option Nat :=
  if '0' ≤ char ∧ char ≤ '9' then some (char.toNat - '0'.toNat)
  else if 'a' ≤ char ∧ char ≤ 'f' then some (char.toNat - 'a'.toNat + 10)
  else if 'A' ≤ char ∧ char ≤ 'F' then some (char.toNat - 'A'.toNat + 10)
  else none

/-- The character that a backslash and one further character stand for. -/
def escaped? : Char → Option Char
  | '"' => some '"'
  | '\\' => some '\\'
  | '/' => some '/'
  | 'b' => some '\x08'
  | 'f' => some '\x0c'
  | 'n' => some '\n'
  | 'r' => some '\r'
  | 't' => some '\t'
  | _ => none

/-- Read a character between two tokens. -/
def stepBetween (char : Char) : Option (Scan × List Token) :=
  if isBlank char then some (between, [])
  else if isWordChar char then some (word [char], [])
  else
    match char with
    | '[' => some (between, [.openArray])
    | ']' => some (between, [.closeArray])
    | '\x7b' => some (between, [.openObject])
    | '\x7d' => some (between, [.closeObject])
    | ',' => some (between, [.comma])
    | ':' => some (between, [.colon])
    | '"' => some (text (some .empty), [])
    | _ => none

/-- Read one character. The result is what to remember and the tokens that it completes. -/
def step : Scan → Char → Option (Scan × List Token)
  | between, char => stepBetween char
  | word newestFirst, char =>
      if isWordChar char then
        some (word (char :: newestFirst), [])
      else
        match scalarOf? newestFirst.reverse, stepBetween char with
        | some scalar, some (next, tokens) => some (next, .scalar scalar :: tokens)
        | _, _ => none
  | text draft, char =>
      if char = '"' then some (between, [.scalar (.text (draft.bind Draft.finish))])
      else if char = '\\' then some (escape draft, [])
      else if char.toNat < 0x20 then none
      else some (text (draft.bind (·.push char)), [])
  | escape draft, char =>
      if char = 'u' then some (unit draft 4 0, [])
      else (escaped? char).map fun meant => (text (draft.bind (·.push meant)), [])
  | unit draft due value, char =>
      (hexValue? char).map fun digit =>
        let value := value * 16 + digit
        if due ≤ 1 then (text (draft.bind (·.pushUnit value)), [])
        else (unit draft (due - 1) value, [])

/-- The tokens that the end of the text completes. -/
def finish : Scan → Option (List Token)
  | between => some []
  | word newestFirst => (scalarOf? newestFirst.reverse).map fun scalar => [.scalar scalar]
  | _ => none

/-- The tokens of the rest of a text. -/
def run : Scan → List Char → Option (List Token)
  | scan, [] => scan.finish
  | scan, char :: rest =>
      match scan.step char with
      | none => none
      | some (next, tokens) => (run next rest).map (tokens ++ ·)

end Scan

/-- The tokens of a text. -/
def Token.ofText? (text : List Char) : Option (List Token) := Scan.between.run text

end Lamplighter.Json
