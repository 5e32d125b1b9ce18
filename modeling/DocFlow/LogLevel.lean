import DocFlow.Text.Case

/-!
# Log levels

How much is logged.  A level lets through the messages of its own and of more severe levels.
-/

namespace DocFlow

/-- The levels from the most severe on. -/
inductive LogLevel where
  | error | warn | info | debug | trace
  deriving DecidableEq, Repr

namespace LogLevel

def all : List LogLevel := [error, warn, info, debug, trace]

def name : LogLevel → String
  | error => "ERROR"
  | warn => "WARN"
  | info => "INFO"
  | debug => "DEBUG"
  | trace => "TRACE"

def rank : LogLevel → Nat
  | error => 0
  | warn => 1
  | info => 2
  | debug => 3
  | trace => 4

/-- A message of level `message` is logged at the threshold `threshold`. -/
def passes (threshold message : LogLevel) : Bool := message.rank ≤ threshold.rank

/-- The level that a text names, in any case; or the message that there is none. -/
def parse (s : String) : Except String LogLevel :=
  let name := Text.upper s
  if name = "ERROR" then pure error
  else if name = "WARN" ∨ name = "WARNING" then pure warn
  else if name = "INFO" then pure info
  else if name = "DEBUG" then pure debug
  else if name = "TRACE" then pure trace
  else throw ("unknown log level: " ++ name)

end LogLevel

end DocFlow
