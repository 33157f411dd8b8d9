import Lamplighter.Json.Fault
import Lamplighter.Json.Token

/-!
# The token in front

The token with which a text begins is read here without regard to what follows it, for a reader that
wants to know what is wrong with a text. What stops it is a `Snag`: a flaw and how far it had come.
Everything that the token spells has to be sound; no number may be too large for a double and no
surrogate may stay alone.
-/

namespace Lamplighter.Json

/-- A flaw, and the number of bytes of a token that have been read when it is noticed. -/
structure Snag where
  flaw : Flaw
  bytes : Nat

/-- The snag of something that is missing behind a number of bytes: the next byte shows it, or the
end of the text does. -/
def Snag.missing (flaw : Flaw) (bytes : Nat) (behind : List Char) : Snag :=
  if behind.isEmpty then ⟨.endInValue, bytes⟩ else ⟨flaw, bytes + 1⟩

/-- A token in front of a text. -/
structure Lexeme where
  token : Token
  /-- The number of its characters. -/
  length : Nat

namespace Lexeme

/-! ## Words -/

/-- How many characters two lists have in common at their front. -/
def agreement : List Char → List Char → Nat
  | expected :: word, char :: rest => if char = expected then agreement word rest + 1 else 0
  | _, _ => 0

/-- Read the word for a scalar. -/
def readWord (word : List Char) (scalar : Scalar) (text : List Char) : Except Snag Lexeme :=
  let read := agreement word text
  if read = word.length then .ok ⟨.scalar scalar, read⟩
  else .error (.missing .badWord read (text.drop read))

/-! ## Numbers -/

/-- The parts of a number in front of a text. -/
structure NumberParts where
  negative : Bool
  whole : List Char
  fraction : List Char
  /-- Whether the exponent is negative, and its digits. -/
  power : Option (Bool × List Char)
  /-- The number of characters of all of it. -/
  length : Nat

/-- Read the digits behind a point, if there is one, behind a number of characters. The result is
the digits, the number of characters that have then been read, and what follows. -/
def readFraction (read : Nat) : List Char → Except Snag (List Char × Nat × List Char)
  | '.' :: behind =>
      let (digits, rest) := Numeral.splitDigits behind
      if digits.isEmpty then .error (.missing .badNumber (read + 1) behind)
      else .ok (digits, read + 1 + digits.length, rest)
  | text => .ok ([], read, text)

/-- Read an exponent, if there is one, behind a number of characters. The result is the sign and
digits of the exponent and the number of characters that have then been read. -/
def readPower (read : Nat) (text : List Char) : Except Snag (Option (Bool × List Char) × Nat) :=
  if text.head? = some 'e' ∨ text.head? = some 'E' then
    let behind := text.drop 1
    let signs := if behind.head? = some '+' ∨ behind.head? = some '-' then 1 else 0
    let (digits, _) := Numeral.splitDigits (behind.drop signs)
    if digits.isEmpty then .error (.missing .badNumber (read + 1 + signs) (behind.drop signs))
    else .ok (some (behind.head? == some '-', digits), read + 1 + signs + digits.length)
  else
    .ok (none, read)

/-- Read the parts of a number. A whole part has no needless zero in front. -/
def readParts (text : List Char) : Except Snag NumberParts := do
  let negative := text.head? == some '-'
  let signs := if negative then 1 else 0
  let (whole, behindWhole) := Numeral.splitDigits (text.drop signs)
  if whole.isEmpty then throw (.missing .badNumber signs behindWhole)
  if whole.head? = some '0' ∧ whole.length ≠ 1 then throw ⟨.badNumber, signs + 2⟩
  let (fraction, read, behind) ← readFraction (signs + whole.length) behindWhole
  let (power, length) ← readPower read behind
  return { negative, whole, fraction, power, length }

/-- The numeral of the parts of a number. -/
def NumberParts.numeral (parts : NumberParts) : Numeral where
  negative := parts.negative
  whole := Numeral.valueOf parts.whole
  fraction := parts.fraction.map Numeral.digitOf
  exponent := parts.power.map fun (negative, digits) =>
    if negative then -(Numeral.valueOf digits : Int) else Numeral.valueOf digits

/-- How many digits behind the one with which an exponent outgrows 31 bits are left unread. -/
def NumberParts.unread (parts : NumberParts) : Nat :=
  match parts.power with
  | none => 0
  | some (_, digits) =>
      (List.range digits.length).countP fun count =>
        0x80000000 ≤ Numeral.valueOf (digits.take count)

/-- Read a number. -/
def readNumber (text : List Char) : Except Snag Lexeme := do
  let parts ← readParts text
  if parts.numeral.isTooLarge then throw ⟨.numberTooLarge, parts.length - parts.unread⟩
  return ⟨.scalar (.number parts.numeral), parts.length⟩

/-! ## Texts -/

/-- The draft of a text that is being scanned. -/
def draft? : Scan → Option Draft
  | .text draft => draft
  | .escape draft => draft
  | .unit draft _ _ => draft
  | _ => none

/-- The snag at a character that does not belong into a text, behind a number of bytes. The four
digits of an escaped code unit are looked at together. -/
def textSnag (scan : Scan) (bytes : Nat) (char : Char) (rest : List Char) : Snag :=
  match scan with
  | .unit _ due _ =>
      let left := (char :: rest).foldl (fun left next => left + next.utf8Size) 0
      if (Scan.hexValue? char).isSome then ⟨.loneSurrogate, bytes + 1⟩
      else if left < due then ⟨.endInText, bytes + left⟩
      else ⟨.badEscape, bytes + due⟩
  | .escape (some ⟨_, none⟩) => ⟨.badEscape, bytes + 1⟩
  | .text (some ⟨_, none⟩) => ⟨.controlCharacter, bytes + 1⟩
  | _ => ⟨.cutSurrogates, bytes + 1⟩

/-- Read the rest of a text, of which a number of characters and bytes have been read. -/
def readText (scan : Scan) (read bytes : Nat) : List Char → Except Snag Lexeme
  | [] => .error ⟨.endInText, bytes⟩
  | char :: rest =>
      match scan.step char with
      | some (_, [.scalar (.text (some content))]) =>
          .ok ⟨.scalar (.text (some content)), read + 1⟩
      | some (next, []) =>
          if (draft? next).isSome then readText next (read + 1) (bytes + char.utf8Size) rest
          else .error (textSnag scan bytes char rest)
      | _ => .error (textSnag scan bytes char rest)

/-! ## Tokens -/

/-- Read the token in front of a text that does not begin with a blank. -/
def read (text : List Char) : Except Snag Lexeme :=
  match text with
  | [] => .error ⟨.endInValue, 0⟩
  | '[' :: _ => .ok ⟨.openArray, 1⟩
  | ']' :: _ => .ok ⟨.closeArray, 1⟩
  | '\x7b' :: _ => .ok ⟨.openObject, 1⟩
  | '\x7d' :: _ => .ok ⟨.closeObject, 1⟩
  | ',' :: _ => .ok ⟨.comma, 1⟩
  | ':' :: _ => .ok ⟨.colon, 1⟩
  | '"' :: rest => readText (.text (some .empty)) 1 1 rest
  | 'n' :: _ => readWord "null".toList .null text
  | 't' :: _ => readWord "true".toList (.bool true) text
  | 'f' :: _ => readWord "false".toList (.bool false) text
  | char :: _ =>
      if char = '-' ∨ char.isDigit then readNumber text else .error ⟨.noValue, 1⟩

end Lexeme

end Lamplighter.Json
