import Lamplighter.Json.Lexeme
import Lamplighter.Json.Reading

/-!
# What is wrong with a text

A text is read from its front to the first fault. A reader that expects values of some type objects
as soon as it has read enough to know that it will refuse, so a refusal may be noticed in front of a
flaw; what it objects to is a parameter here, as a function of what has been read.
-/

namespace Lamplighter.Json

/-- Where a refusal is noticed, seen from the token after which the reader objects. -/
inductive Spot where
  | inFront
  | behind
  /-- Behind the blanks that follow, and behind the end of an object if that comes then. -/
  | objectEnd
  /-- Behind the blanks that follow, and behind the end of an array, or a comma with its blanks, if
  that comes then. -/
  | arrayEnd
deriving DecidableEq, Repr

/-- Why a reader will refuse what it has begun to read. -/
structure Objection where
  refusal : Refusal
  spot : Spot
deriving DecidableEq, Repr

/-- The place behind the blanks in front of a text, and the text there. -/
def skipBlanks (place : Place) : List Char → Place × List Char
  | [] => (place, [])
  | char :: rest =>
      if Scan.isBlank char then skipBlanks (place.after char) rest else (place, char :: rest)

/-- The place of a spot, given the places in front of the token and behind it, and what follows. -/
def Spot.place (start stop : Place) (rest : List Char) : Spot → Place
  | .inFront => start
  | .behind => stop
  | .objectEnd =>
      match skipBlanks stop rest with
      | (place, '\x7d' :: _) => place.after '\x7d'
      | (place, _) => place
  | .arrayEnd =>
      match skipBlanks stop rest with
      | (place, ']' :: _) => place.after ']'
      | (place, ',' :: next) => (skipBlanks (place.after ',') next).1
      | (place, _) => place

namespace Reader

/-- A value may begin with a character. -/
def beginsValue (char : Char) : Bool :=
  ['[', '\x7b', '"', '-', 'n', 't', 'f'].contains char || char.isDigit

/-- What is wrong with a token that begins with a character, if no such token may come. -/
def flaw? : Reader → Char → Option Flaw
  | value (.array _ :: _), ']' => some .trailingComma
  | value _, char => if beginsValue char then none else some .noValue
  | itemOrEnd _, ']' => none
  | itemOrEnd _, char => if beginsValue char then none else some .noValue
  | keyOrEnd _, '"' => none
  | keyOrEnd _, '\x7d' => none
  | keyOrEnd _, _ => some .keyNotText
  | key _ _, '"' => none
  | key _ _, '\x7d' => some .trailingComma
  | key _ _, _ => some .keyNotText
  | colon _ _ _, ':' => none
  | colon _ _ _, _ => some .noColon
  | complete [] _, _ => some .trailingCharacters
  | complete _ _, ',' => none
  | complete (.array _ :: _) _, ']' => none
  | complete (.array _ :: _) _, _ => some .noListEnd
  | complete (.object _ _ :: _) _, '\x7d' => none
  | complete (.object _ _ :: _) _, _ => some .noObjectEnd

/-- What is wrong with a text that ends, if it may not. -/
def endFlaw? : Reader → Option Flaw
  | value _ => some .endInValue
  | itemOrEnd _ => some .endInList
  | keyOrEnd _ => some .endInObject
  | key _ _ => some .endInValue
  | colon _ _ _ => some .endInObject
  | complete [] _ => none
  | complete (.array _ :: _) _ => some .endInList
  | complete (.object _ _ :: _) _ => some .endInObject

/-- A container has been opened inside as many as may be open. -/
def isTooDeep : Reader → Bool
  | itemOrEnd opened => nestingLimit ≤ opened.length
  | keyOrEnd opened => nestingLimit ≤ opened.length
  | _ => false

/-- Read the token in front of a text. The result is its length and what has then been read. -/
def advance (reader : Reader) (text : List Char) : Except Snag (Nat × Reader) := do
  if let some flaw := text.head?.bind reader.flaw? then throw ⟨flaw, 1⟩
  let lexeme ← Lexeme.read text
  match reader.step lexeme.token with
  | none => throw ⟨.noValue, 1⟩
  | some next => if next.isTooDeep then throw ⟨.tooDeep, 1⟩ else return (lexeme.length, next)

/-- The fault at the token in front of a text, or its length and what has then been read. -/
def advanceTo (objection? : Reader → Option Objection) (reader : Reader) (here : Place)
    (text : List Char) : Except Fault (Nat × Reader) :=
  match reader.advance text with
  | .error snag => .error ⟨.flaw snag.flaw, here.afterBytes snag.bytes text⟩
  | .ok (length, next) =>
      match objection? next with
      | none => .ok (length, next)
      | some objection =>
          let stop := (text.take length).foldl Place.after here
          .error ⟨.refusal objection.refusal, objection.spot.place here stop (text.drop length)⟩

/-- The first fault in the rest of a text, of whose first characters a number has been read. -/
def fault? (objection? : Reader → Option Objection) (reader : Reader) (read : Nat) (here : Place) :
    List Char → Option Fault
  | [] => reader.endFlaw?.map fun flaw => ⟨.flaw flaw, here⟩
  | char :: rest =>
      if 0 < read then
        fault? objection? reader (read - 1) (here.after char) rest
      else if Scan.isBlank char then
        fault? objection? reader 0 (here.after char) rest
      else
        match reader.advanceTo objection? here (char :: rest) with
        | .error fault => some fault
        | .ok (length, next) => fault? objection? next (length - 1) (here.after char) rest

end Reader

/-- The first fault in a text, for a reader that makes certain objections. -/
def fault? (objection? : Reader → Option Objection) (text : String) : Option Fault :=
  (Reader.value []).fault? objection? 0 .start text.toList

end Lamplighter.Json
