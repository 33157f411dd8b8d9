/-!
# The journal

What the game tells whoever watches over it, as messages of different severity. A module whose
functions have something to tell says, beside each of them, what is told; the functions themselves
do not depend on it.
-/

namespace Lamplighter

/-- How much attention a message asks for. -/
inductive Severity where
  | error
  | warning
  | info
  | debug
  | trace
deriving DecidableEq, Repr

namespace Severity

/-- Every severity, the most severe first. -/
def all : List Severity := [error, warning, info, debug, trace]

/-- The name under which a message of a severity is shown. -/
def label : Severity → String
  | error => "ERROR"
  | warning => "WARN"
  | info => "INFO"
  | debug => "DEBUG"
  | trace => "TRACE"

/-- The place of a severity; a more severe one comes earlier. -/
def rank : Severity → Nat
  | error => 0
  | warning => 1
  | info => 2
  | debug => 3
  | trace => 4

end Severity

/-- One line of the journal. -/
structure Message where
  severity : Severity
  text : String
deriving DecidableEq, Repr

namespace Message

/-- A message that is always of interest. -/
def info (text : String) : Message := ⟨.info, text⟩

/-- A message for those who look for a fault. -/
def debug (text : String) : Message := ⟨.debug, text⟩

/-- A message about a failure. -/
def error (text : String) : Message := ⟨.error, text⟩

end Message

end Lamplighter
