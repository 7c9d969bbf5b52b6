import ExactFactorial.Program.Host

namespace ExactFactorial
namespace Program

/-!
# Running on the real machine

What a run does with its host is settled in `Program.Host`.  What is left to do here is to be that
host: to look at the real environment and files, and to move bytes in and out of the real channels.
-/

/-- The variables of the real environment. -/
def readEnvironment : IO Settings.Environment := do
  let value (name : String) : IO (Option Bytes) := return (← IO.getEnv name).map Text.Utf8.encode
  return {
    settingsPath := ← value "FACTORIAL_CONFIG_PATH"
    configHome := ← value "XDG_CONFIG_HOME"
    home := (← value "HOME").getD []
    logFilter := ← value "RUST_LOG" }

/-- Whether a path leads to a file. -/
def isRealFile (path : Bytes) : IO Bool := do
  try
    return (← (← IO.FS.realPath (Text.Utf8.lossy path)).metadata).type == .file
  catch _ =>
    return false

/-- An error of the operating system in words, with its number. -/
def wording : IO.Error → String
  | .inappropriateType _ number reason | .invalidArgument _ number reason
  | .permissionDenied _ number reason | .resourceExhausted _ number reason
  | .resourceVanished number reason | .hardwareFault number reason | .otherError number reason =>
      reason ++ " (os error " ++ toString number ++ ")"
  | error => toString error

/-- Why a file could not be read. -/
def failureOf : IO.Error → Storage.Failure
  | .noFileOrDirectory .. => .missing
  | error => .other (wording error)

/-- The text of a file. -/
def readRealFile (path : Bytes) : IO (Except Storage.Failure String) := do
  try
    let handle ← IO.FS.Handle.mk (Text.Utf8.lossy path) .read
    let content ← handle.readBinToEnd
    return (Text.Utf8.decode? content.toList).elim (.error .notText) .ok
  catch error =>
    return .error (failureOf error)

/-- A fault of a real channel. -/
def faultOf (error : IO.Error) : Channel.Fault :=
  ⟨.named "terminal", wording error⟩

/-- Do something with the output.  No stall can come back from it, because what never ends does not
come back. -/
def withOutput (action : IO.FS.Stream → IO Unit) : IO (Except Channel.Obstacle Unit) := do
  try
    action (← IO.getStdout)
    return .ok ()
  catch error =>
    return .error (.fault (faultOf error))

/-- Read one line with its line end. -/
def readInputLine : IO Bytes := do
  let input ← IO.getStdin
  let mut line : Array UInt8 := #[]
  repeat
    let bytes := (← input.read 1).toList
    line := line ++ bytes
    if bytes.isEmpty || bytes == [Channel.lineEnd] then break
  return line.toList

/-- The real machine.  Nothing that was written is held back, so that no fault comes too late. -/
def realHost : Host IO where
  isFile := isRealFile
  readFile := readRealFile
  write bytes := withOutput fun output => do
    output.write bytes.toByteArray
    output.flush
  flush := withOutput fun output => output.flush
  readLine := do
    try
      return .ok (← readInputLine)
    catch error =>
      return .error (faultOf error)
  report text := do (← IO.getStderr).putStr text

end Program
end ExactFactorial

open ExactFactorial Program

/-- Compute a factorial, from an argument or from a line of input. -/
def main (given : List String) : IO UInt32 := do
  let program := (← IO.appPath).toString
  let outcome ← realHost.run (← readEnvironment) ((program :: given).map Text.Utf8.encode)
  match outcome with
  | .exit code => return code.toUInt32
  | .aborted | .stalled => return 101
