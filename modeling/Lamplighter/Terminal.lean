/-!
# Texts on a terminal

Some characters of a text control a terminal instead of being shown there. A control sequence begins
with the escape character, and it depends on the next one where the sequence ends. `Terminal.plain`
is what is left of a text once its control sequences and the other control characters are dropped.

Line ends, tabs and form feeds are kept, also in the middle of a sequence that does not carry a
string. After one of them the text is shown again, and the sequence goes on at the next control
character that is dropped.
-/

namespace Lamplighter.Terminal

/-- The part of a control sequence that has been reached. -/
inductive Part where
  /-- No sequence has begun. -/
  | outside
  | escape
  /-- A sequence of which only the last character is still open. -/
  | intermediate
  /-- A sequence with numbers in front of its last character. -/
  | parameters
  /-- The beginning of a string for a device, in front of which numbers may stand. -/
  | device
  /-- The numbers in front of a string for a device. -/
  | deviceParameters
  /-- The signs between those numbers and the string. -/
  | deviceIntermediate
  /-- A string that ends at a string terminator. -/
  | string
  /-- A string that ends at a bell. -/
  | command
deriving DecidableEq, Repr

namespace Part

/-- The part that an escape character and one further character begin. -/
def begun (char : Char) : Part :=
  if ' ' ≤ char ∧ char ≤ '/' then intermediate
  else if char = '[' then parameters
  else if char = ']' then command
  else if char = 'P' then device
  else if char = 'X' ∨ char = '^' ∨ char = '_' then string
  else if '0' ≤ char ∧ char ≤ '~' then outside
  else escape

/-- The part that a character begins in front of a string for a device, given what a digit and what
a comparison sign begins there. What is out of order begins a string that means nothing. -/
def deviceNext (part digits signs : Part) (char : Char) : Part :=
  if ' ' ≤ char ∧ char ≤ '/' then deviceIntermediate
  else if '0' ≤ char ∧ char ≤ ';' then digits
  else if '<' ≤ char ∧ char ≤ '?' then signs
  else if '@' ≤ char ∧ char ≤ '~' then string
  else part

/-- One of the bytes of a character is the string terminator. -/
def endsString (char : Char) : Bool := (String.utf8EncodeChar char).contains 0x9c

/-- The part that is reached with a character. Two control characters end any sequence, and an
escape character begins a new one. -/
def next (part : Part) (char : Char) : Part :=
  if char = '\x18' ∨ char = '\x1a' then outside
  else if char = '\x1b' then escape
  else
    match part with
    | outside => outside
    | escape => begun char
    | intermediate => if '0' ≤ char ∧ char ≤ '~' then outside else intermediate
    | parameters => if '@' ≤ char ∧ char ≤ '~' then outside else parameters
    | device => deviceNext device deviceParameters deviceParameters char
    | deviceParameters => deviceNext deviceParameters deviceParameters string char
    | deviceIntermediate => deviceNext deviceIntermediate string string char
    | string => if endsString char then outside else string
    | command => if char = '\x07' then outside else command

/-- The sequence carries a string. -/
def carriesString : Part → Bool
  | outside | escape | intermediate | parameters => false
  | device | deviceParameters | deviceIntermediate | string | command => true

end Part

/-- The control characters that are kept. -/
def isLayout (char : Char) : Bool :=
  char == '\t' || char == '\n' || char == '\x0c' || char == '\r'

/-- A character that is kept outside of control sequences. -/
def isVisible (char : Char) : Bool :=
  (' ' ≤ char && char != '\x7f') || isLayout char

/-- What a reader of a text knows between two characters. -/
structure Screen where
  part : Part
  /-- Text is shown, although a sequence has not come to its end. -/
  showing : Bool

namespace Screen

/-- Characters are shown as they come. -/
def shows (screen : Screen) (char : Char) : Bool :=
  if screen.showing ∨ screen.part = .outside then isVisible char
  else isLayout char && !screen.part.carriesString

/-- Read a character. Where text is shown, a character beyond the first 128 ends any sequence. -/
def step (screen : Screen) (char : Char) : Screen :=
  if screen.shows char then
    { part := if char.toNat < 0x80 then screen.part else .outside, showing := true }
  else
    { part := screen.part.next char, showing := false }

/-- What is shown of the rest of a text. -/
def shown (screen : Screen) : List Char → List Char
  | [] => []
  | char :: rest =>
      let further := (screen.step char).shown rest
      if screen.shows char then char :: further else further

end Screen

/-- What is left of a text without what controls a terminal. -/
def plain (text : String) : String := String.ofList (Screen.shown ⟨.outside, false⟩ text.toList)

end Lamplighter.Terminal
