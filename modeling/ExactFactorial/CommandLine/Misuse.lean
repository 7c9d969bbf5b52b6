import ExactFactorial.CommandLine.Arguments
import ExactFactorial.CommandLine.Switch
import ExactFactorial.Numeral
import ExactFactorial.Session

namespace ExactFactorial
namespace CommandLine

/-!
# What the user is told

Reading a command line may stop before it gives a request: because information was asked for,
because the arguments are misused, or because an argument that has to be a text is none.  The
explanation of a misuse ends with the switches that were given so far.
-/

/-- How a command line is misused. -/
inductive Misuse where
  /-- A long name that means nothing. -/
  | unknownName (name : String)
  /-- A letter that means nothing, or a second number, as it is shown. -/
  | unexpected (shown : String)
  | noValue (setting : Setting)
  | repeated (switch : Switch)
  | badLimit (flaw : Numeral.Flaw)
  deriving Repr, DecidableEq

/-- Why there is no request. -/
inductive Stop where
  | help
  | version
  /-- The misuse, and the switches given up to it. -/
  | misuse (cause : Misuse) (given : List Switch)
  | undecodable
  deriving Repr, DecidableEq

/-- One line on how to call the program: the general form, or the switches given. -/
def usage (program : String) (given : List Switch) : String :=
  if given.isEmpty then program ++ " [FLAGS] [OPTIONS] [N]"
  else " ".intercalate (program :: given.map Switch.shown)

namespace Misuse

/-- What is wrong, in one line. -/
def headline : Misuse → String
  | .unknownName name => unexpectedArgument ("--" ++ name)
  | .unexpected shown => unexpectedArgument shown
  | .noValue setting =>
      "error: The argument '" ++ (Switch.setting setting).shown ++
        "' requires a value but none was supplied"
  | .repeated switch =>
      "error: The argument '" ++ switch.shown ++
        "' was provided more than once, but cannot be used multiple times"
  | .badLimit flaw =>
      "error: Invalid value for '" ++ (Switch.setting .limit).shown ++ "': " ++ flaw.message
where
  unexpectedArgument (shown : String) : String :=
    "error: Found argument '" ++ shown ++
      "' which wasn't expected, or isn't valid in this context"

/-- The full explanation.  A bad value needs no word on usage. -/
def message (program : String) (given : List Switch) (misuse : Misuse) : String :=
  match misuse with
  | .badLimit _ => misuse.headline
  | _ =>
      misuse.headline ++ "\n\nUSAGE:\n    " ++ usage program given ++
        "\n\nFor more information try --help"

end Misuse

/-- The name and version of the program.  A program name with blanks in it is shown with hyphens. -/
def versionLine (program : String) : String :=
  let name :=
    if program.toList.contains ' ' then
      String.ofList (program.toList.map fun c => if c = ' ' then '-' else c)
    else defaultProgram
  name ++ " 0.1.0"

/-- The page on how to use the program. -/
def helpPage (program : String) : String :=
  "\n".intercalate [
    versionLine program,
    "",
    "USAGE:",
    "    " ++ usage program [],
    "",
    "FLAGS:",
    "        --config-file    Show the path of factorial config file",
    "    -d, --digits         Print only the number of digits of the result",
    "    -h, --help           Prints help information",
    "    -V, --version        Prints version information",
    "",
    "OPTIONS:",
    "    -l, --limit <N>        Refuse to compute n! for any n above this value",
    "    -p, --prompt <TEXT>    Text shown before reading the number from stdin [default: " ++
      defaultPrompt ++ "]",
    "",
    "ARGS:",
    "    <N>    The number to use. If not set, it is read from stdin"]

end CommandLine
end ExactFactorial
