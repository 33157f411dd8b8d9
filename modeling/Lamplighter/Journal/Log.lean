import Lamplighter.Journal
import Lamplighter.Terminal

/-!
# The log

A log gives every message a line, together with its severity. A message of several lines goes on in
further lines, which are indented and have no severity. What would control a terminal is left out,
so a line end inside a control string does not end a line.
-/

namespace Lamplighter

/-- A line of a log. Only the first line of a message has a severity. -/
structure LogLine where
  severity : Option Severity
  text : String
deriving DecidableEq, Repr

namespace LogLine

/-- What stands in front of the further lines of a message. -/
def indentation : String := "    "

/-- The lines of a text. A carriage return in front of a line feed belongs to the line end, and no
line begins behind the last line end. -/
def splitLines (text : String) : List String :=
  let pieces := text.splitOn "\n"
  let ended := pieces.dropLast.map fun piece => (piece.dropSuffix "\r").toString
  match pieces.getLast? with
  | none => ended
  | some "" => if ended.isEmpty then [""] else ended
  | some unended => ended ++ [unended]

/-- The lines of a message. -/
def ofMessage (message : Message) : List LogLine :=
  let indented := message.text.replace "\n" ("\n" ++ indentation)
  (splitLines (Terminal.plain (indented ++ "\n"))).mapIdx fun index text =>
    ⟨if index = 0 then some message.severity else none, text⟩

end LogLine

end Lamplighter
