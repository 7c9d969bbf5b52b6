namespace ExactFactorial
namespace Log

/-!
# Log records

A record says how important it is, which part of the program made it, and its message.  Records are
values: what is shown of them is decided later by a filter.
-/

/-- From the most to the least important. -/
inductive Level where
  | error
  | warn
  | info
  | debug
  | trace
  deriving Repr, DecidableEq

namespace Level

/-- The position in the order of importance; a filter shows ranks up to its own. -/
def rank : Level → Nat
  | .error => 1
  | .warn => 2
  | .info => 3
  | .debug => 4
  | .trace => 5

/-- The name in a log line. -/
def label : Level → String
  | .error => "ERROR"
  | .warn => "WARN"
  | .info => "INFO"
  | .debug => "DEBUG"
  | .trace => "TRACE"

/-- The name padded to the width of the longest one. -/
def column (level : Level) : String :=
  level.label.pushn ' ' (5 - level.label.length)

end Level

/-- The part of the program that made a record. -/
inductive Origin where
  | program
  | settings
  | session
  | calculator
  deriving Repr, DecidableEq

/-- The name by which a filter selects an origin. -/
def Origin.target : Origin → String
  | .program => "factorial"
  | .settings => "factorial::config"
  | .session => "factorial::repl"
  | .calculator => "factorial::factorial"

/-- One entry of the log. -/
structure Record where
  level : Level
  origin : Origin
  message : String
  deriving Repr, DecidableEq

namespace Record

/-- Continue the lines of a message under its first one. -/
def indented (message : String) : String :=
  String.ofList (message.toList.flatMap fun c =>
    if c = '\n' then ['\n', ' ', ' ', ' ', ' '] else [c])

/-- The line of a record. -/
def render (record : Record) : String :=
  "[" ++ record.level.column ++ " " ++ record.origin.target ++ "] " ++
    indented record.message ++ "\n"

end Record
end Log
end ExactFactorial
