import ExactFactorial.CommandLine.Scan
import ExactFactorial.Log.Filter
import ExactFactorial.Settings.Loading

namespace ExactFactorial
namespace Program

/-!
# The program as a whole

A run takes arguments from the settings file and from the command line, in this order, and does what
they ask for.  Answers go to the output.  The log, explanations of misuse and faults of the channels
go to the error channel.  A refused number and a fault are no failure of the run; only a misuse of
the command line is, and a version that cannot be printed.  A help page that cannot be printed is
passed over.  A text that cannot be decoded where one is needed, and a settings path that cannot be
printed, abort the run.  Where the output interrupts a write without end, so does the run go on
without end.
-/

/-- What the arguments ask for. -/
inductive Plan where
  /-- Print a help page, if that can be done. -/
  | help (page : String)
  /-- Print the version. -/
  | version (line : String)
  /-- Explain a misuse. -/
  | complain (text : String)
  /-- Print where the settings file is. -/
  | showPath
  /-- Answer a text. -/
  | answer (session : Session) (line : String)
  /-- Prompt for a line and answer it. -/
  | ask (session : Session)
  | abort
  deriving Repr, DecidableEq

/-- The plan behind a list of arguments, the program name first. -/
def plan (arguments : List Bytes) : Plan :=
  let program := CommandLine.programName arguments
  match CommandLine.read arguments with
  | .error .help => .help (CommandLine.helpPage program)
  | .error .version => .version (CommandLine.versionLine program)
  | .error (.misuse cause given) => .complain (cause.message program given)
  | .error .undecodable => .abort
  | .ok request =>
      if request.showPath then .showPath
      else
        match request.number with
        | some line => .answer request.session line
        | none => .ask request.session

/-- The arguments of a run: those given, and before them those of the settings file. -/
def fullArguments (loaded : Settings.Loaded) (given : List Bytes) : List Bytes :=
  CommandLine.merge (loaded.arguments.map Text.Utf8.encode) given

/-- What is logged when an exchange is over. -/
def farewell : Except Channel.Obstacle Verdict → List Log.Record
  | .ok (.computed n _) => [⟨.debug, .program, "done with " ++ toString n ++ "!"⟩]
  | .ok (.refused _) | .error _ => []

/-- The line about a fault. -/
def faultLine : Except Channel.Obstacle Verdict → String
  | .error (.fault fault) => "[error] Failed to talk to the terminal: " ++ fault.message ++ "\n"
  | .error .stall | .ok _ => ""

/-- What is said when the version cannot be printed. -/
def versionFault : String := "error: description() is deprecated; use Display"

/-- What an exchange with this end and this log writes to the error channel. -/
def errorText (filter : Log.Filter) (result : Except Channel.Obstacle Verdict)
    (log : List Log.Record) : String :=
  filter.render (log ++ farewell result) ++ faultLine result

/-- The error channel before anything is done: what is wrong with the log filter, and the log about
the settings file. -/
def preamble (specification : Log.Specification) (loaded : Settings.Loaded) : String :=
  String.join (specification.complaints.map fun line => line ++ "\n") ++
    specification.filter.render loaded.log

/-- All that a run depends on. -/
structure Invocation where
  /-- The program name first. -/
  arguments : List Bytes
  environment : Settings.Environment
  files : Storage.FileTree
  input : Channel.Source := {}
  output : Channel.Sink := {}

/-- What a run that was not aborted leaves behind. -/
structure Report where
  code : Nat
  output : Channel.Sink
  errors : String
  input : Channel.Source

/-- What becomes of a run. -/
inductive Ending where
  | finished (report : Report)
  | aborted
  /-- It waits for its output without end. -/
  | stalled

/-- Run the program. -/
def run (invocation : Invocation) : Ending :=
  let specification := Log.Specification.ofVariable invocation.environment.logFilter
  let (path, loaded) := Settings.locate invocation.environment invocation.files
  let opening := preamble specification loaded
  let printed (text : String) := invocation.output.write (Text.Utf8.encode (text ++ "\n"))
  let complain (text : String) (output : Channel.Sink) : Ending :=
    .finished ⟨1, output, opening ++ (text ++ "\n"), invocation.input⟩
  let conclude (exchange : Exchange) (input : Channel.Source) : Ending :=
    match exchange.result with
    | .error .stall => .stalled
    | result =>
        .finished ⟨0, exchange.sink,
          opening ++ errorText specification.filter result exchange.log, input⟩
  match plan (fullArguments loaded invocation.arguments) with
  | .help page =>
      match printed page with
      | (.error .stall, _) => .stalled
      | (_, output) => .finished ⟨0, output, opening, invocation.input⟩
  | .version line =>
      match printed line with
      | (.ok (), output) => .finished ⟨0, output, opening, invocation.input⟩
      | (.error (.fault _), output) => complain versionFault output
      | (.error .stall, _) => .stalled
  | .complain text => complain text invocation.output
  | .abort => .aborted
  | .showPath =>
      match printed (Text.Utf8.lossy path) with
      | (.ok (), output) => .finished ⟨0, output, opening, invocation.input⟩
      | (.error (.fault _), _) => .aborted
      | (.error .stall, _) => .stalled
  | .answer session line => conclude (session.answer line invocation.output) invocation.input
  | .ask session =>
      let (exchange, input) := session.ask invocation.input invocation.output
      conclude exchange input

end Program
end ExactFactorial
