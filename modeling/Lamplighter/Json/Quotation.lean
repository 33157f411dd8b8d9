import Lamplighter.Unicode.Combining
import Lamplighter.Unicode.Invisible
import Lamplighter.Unicode.Unassigned

/-!
# Texts in messages

A message quotes a text so that it stays on one line and every character of it can be seen. Quotes,
backslashes, tabs, line ends and the zero character have short escapes; a character that has no
shape of its own is given by its number.
-/

namespace Lamplighter.Json

open Unicode in
/-- A character that stands for itself in a message. -/
def isShown (char : Char) : Bool :=
  !(CharRange.cover invisible char || CharRange.cover combining char ||
    CharRange.cover unassigned char)

/-- A character inside a quoted text. -/
def quotedChar (char : Char) : List Char :=
  if char = '\x00' then ['\\', '0']
  else if char = '\t' then ['\\', 't']
  else if char = '\n' then ['\\', 'n']
  else if char = '\r' then ['\\', 'r']
  else if char = '"' then ['\\', '"']
  else if char = '\\' then ['\\', '\\']
  else if isShown char then [char]
  else ['\\', 'u', '\x7b'] ++ Nat.toDigits 16 char.toNat ++ ['\x7d']

/-- A text in quotes. -/
def quoted (text : String) : String :=
  String.ofList ('"' :: text.toList.flatMap quotedChar ++ ['"'])

end Lamplighter.Json
