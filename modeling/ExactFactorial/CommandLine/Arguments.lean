import ExactFactorial.Storage.Path

namespace ExactFactorial
namespace CommandLine

/-!
# The list of arguments

The first argument of a command line names the program.  Arguments from elsewhere are put right
after it, so that those that were typed come later and win.
-/

/-- The name of the program where the command line does not tell it. -/
def defaultProgram : String := "factorial"

/-- The byte that starts a switch. -/
def hyphen : UInt8 := '-'.toUInt8

/-- The byte between a switch and its value. -/
def equalSign : UInt8 := '='.toUInt8

/-- The name under which messages speak of the program: the last name in the first argument, if that
is a text and does not lead to a parent directory. -/
def programName (arguments : List Bytes) : String :=
  let name := (arguments.head?.bind Storage.lastName?).filter (· != Storage.dots)
  (name.bind Text.Utf8.decode?).getD defaultProgram

/-- The arguments given, with others put between the program name and the rest. -/
def merge (others given : List Bytes) : List Bytes :=
  given.headD (Text.Utf8.encode defaultProgram) :: (others ++ given.tail)

end CommandLine
end ExactFactorial
