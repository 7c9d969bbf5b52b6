import ExactFactorial.Session

namespace ExactFactorial
namespace CommandLine

/-!
# Requests

A request is what a command line asks for once it has been read without fault.
-/

/-- What the program was asked to do. -/
structure Request where
  /-- Show where the settings file is, and do nothing else. -/
  showPath : Bool
  digits : Bool
  limit : Option Nat
  prompt : String
  /-- The text to answer; without it a line is read. -/
  number : Option String
  deriving Repr, DecidableEq

/-- The session that serves a request. -/
def Request.session (request : Request) : Session where
  prompt := request.prompt
  calculator := { ceiling := request.limit }
  digitsOnly := request.digits

end CommandLine
end ExactFactorial
