import ExactFactorial.Program

namespace ExactFactorial

open Channel (Obstacle)

/-!
# Hosts of a run

A run asks six things of the machine it is on: whether there is a file, what a file holds, and the
use of its three channels.  In which order it asks, and what it makes of each reply, is written here
for every host at once.  The real machine is one host, and a tree of files with two modelled channels
is another.
-/

/-- What a run can ask of its surroundings. -/
structure Host (m : Type → Type) where
  isFile : Bytes → m Bool
  readFile : Bytes → m (Except Storage.Failure String)
  /-- Write bytes to the output. -/
  write : Bytes → m (Except Obstacle Unit)
  /-- Flush the output. -/
  flush : m (Except Obstacle Unit)
  /-- Take a line of the input, with its line end. -/
  readLine : m (Except Channel.Fault Bytes)
  /-- Write a text to the error channel. -/
  report : String → m Unit

/-- What becomes of a run, apart from what its host keeps of it. -/
inductive Outcome where
  | exit (code : Nat)
  | aborted
  | stalled
  deriving Repr, DecidableEq

namespace Host

variable {m : Type → Type} [Monad m] (host : Host m)

/-! ## One exchange -/

/-- Write bytes and flush, unless the write meets an obstacle. -/
def put (bytes : Bytes) : m (Except Obstacle Unit) := do
  match ← host.write bytes with
  | .ok () => host.flush
  | .error obstacle => return .error obstacle

/-- Answer a line without prompting.  The reply is how that ended, and the log. -/
def answer (session : Session) (line : String) :
    m (Except Obstacle Verdict × List Log.Record) := do
  let verdict := session.judge line
  let written ← host.put (Text.Utf8.encode (session.reply verdict ++ "\n"))
  return (written.map fun _ => verdict, Session.records line verdict)

/-- Prompt, take a line and answer it. -/
def ask (session : Session) : m (Except Obstacle Verdict × List Log.Record) := do
  match ← host.put (Text.Utf8.encode session.prompt) with
  | .error obstacle => return (.error obstacle, [])
  | .ok () =>
      match ← host.readLine with
      | .error fault => return (.error (.fault fault), [])
      | .ok line => host.answer session (Text.Utf8.lossy line)

/-! ## A whole run -/

/-- Print a line. -/
def print (text : String) : m (Except Obstacle Unit) :=
  host.write (Text.Utf8.encode (text ++ "\n"))

/-- Explain why the run fails. -/
def complain (text : String) : m Outcome := do
  host.report (text ++ "\n")
  return .exit 1

/-- Report how an exchange ended. -/
def conclude (filter : Log.Filter) (result : Except Obstacle Verdict) (log : List Log.Record) :
    m Outcome := do
  match result with
  | .error .stall => return .stalled
  | result =>
      host.report (Program.errorText filter result log)
      return .exit 0

/-- Carry out a plan, with this path of the settings file. -/
def carryOut (filter : Log.Filter) (path : Bytes) : Program.Plan → m Outcome
  | .help page => do
      match ← host.print page with
      | .error .stall => return .stalled
      | _ => return .exit 0
  | .version line => do
      match ← host.print line with
      | .ok () => return .exit 0
      | .error (.fault _) => host.complain Program.versionFault
      | .error .stall => return .stalled
  | .complain text => host.complain text
  | .abort => return .aborted
  | .showPath => do
      match ← host.print (Text.Utf8.lossy path) with
      | .ok () => return .exit 0
      | .error (.fault _) => return .aborted
      | .error .stall => return .stalled
  | .answer session line => do
      let (result, log) ← host.answer session line
      host.conclude filter result log
  | .ask session => do
      let (result, log) ← host.ask session
      host.conclude filter result log

/-- The settings file.  A path from the environment is taken if it leads to a file. -/
def settingsFile (environment : Settings.Environment) : m Bytes := do
  match environment.namedPath? with
  | some path => return if ← host.isFile path then path else environment.usualPath
  | none => return environment.usualPath

/-- Run the program with these arguments, the program name first. -/
def run (environment : Settings.Environment) (given : List Bytes) : m Outcome := do
  let specification := Log.Specification.ofVariable environment.logFilter
  let path ← host.settingsFile environment
  let loaded := Settings.load path (← host.readFile path)
  host.report (Program.preamble specification loaded)
  host.carryOut specification.filter path (Program.plan (Program.fullArguments loaded given))

end Host

/-! ## The modelled host -/

/-- The channels of a run that is not on a real machine. -/
structure Channels where
  input : Channel.Source
  output : Channel.Sink
  errors : String := ""

/-- A tree of files with modelled channels. -/
def Host.modelled (files : Storage.FileTree) : Host (StateM Channels) where
  isFile path := return files.isFile path
  readFile path := return files.read path
  write bytes := do
    let channels ← get
    let (result, output) := channels.output.write bytes
    set { channels with output }
    return result
  flush := do
    let channels ← get
    let (result, output) := channels.output.flush
    set { channels with output }
    return result
  readLine := do
    let channels ← get
    let (result, input) := channels.input.readLine
    set { channels with input }
    return result
  report text := modify fun channels => { channels with errors := channels.errors ++ text }

end ExactFactorial
