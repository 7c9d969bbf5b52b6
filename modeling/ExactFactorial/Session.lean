import ExactFactorial.Calculator
import ExactFactorial.Channel.Sink
import ExactFactorial.Channel.Source
import ExactFactorial.Text.Quoted

namespace ExactFactorial

/-!
# One question, one answer

A session shows a prompt, reads one line and answers it with one line.  Bytes that spell no text
are replaced before the line is judged, so that such a line is refused and is no fault.  The verdict
on the line, and the log that goes with it, do not depend on the sink; only an obstacle in a channel
keeps a session from its verdict.
-/

/-- The prompt of a session that was given none. -/
def defaultPrompt : String := "Enter a non-negative integer: "

/-- What became of a line. -/
inductive Verdict where
  | computed (n : Int) (value : Nat)
  | refused (refusal : Refusal)
  deriving Repr, DecidableEq

/-- How to ask and how to answer. -/
structure Session where
  prompt : String := defaultPrompt
  calculator : Calculator := {}
  /-- Answer with the number of decimal digits in place of the value. -/
  digitsOnly : Bool := false
  deriving Repr, DecidableEq

/-- How an exchange ended, what reached the sink, and what was logged. -/
structure Exchange where
  result : Except Channel.Obstacle Verdict
  sink : Channel.Sink
  log : List Log.Record

namespace Session

/-- The verdict on a line. -/
def judge (session : Session) (line : String) : Verdict :=
  match session.calculator.computeText line with
  | .ok (n, value) => .computed n value
  | .error refusal => .refused refusal

/-- The log of a line with its verdict. -/
def records (line : String) : Verdict → List Log.Record
  | .computed n value => Calculator.records n value
  | .refused refusal =>
      [⟨.info, .session,
        "rejected input " ++ Text.quote (Text.trim line) ++ ": " ++ refusal.message⟩]

/-- The answer to a verdict, without its line end. -/
def reply (session : Session) : Verdict → String
  | .computed n value =>
      let digits := toString value
      if session.digitsOnly then toString n ++ "! has " ++ toString digits.length ++ " digits"
      else toString n ++ "! = " ++ digits
  | .refused refusal => refusal.message

/-- Answer a line without prompting. -/
def answer (session : Session) (line : String) (sink : Channel.Sink) : Exchange :=
  let verdict := session.judge line
  let written := sink.put (Text.Utf8.encode (session.reply verdict ++ "\n"))
  ⟨written.1.map fun _ => verdict, written.2, records line verdict⟩

/-- Prompt, read a line and answer it.  Nothing is read before the prompt is out. -/
def ask (session : Session) (source : Channel.Source) (sink : Channel.Sink) :
    Exchange × Channel.Source :=
  match sink.put (Text.Utf8.encode session.prompt) with
  | (.error obstacle, sink) => (⟨.error obstacle, sink, []⟩, source)
  | (.ok (), sink) =>
      match source.readLine with
      | (.error fault, source) => (⟨.error (.fault fault), sink, []⟩, source)
      | (.ok line, source) => (session.answer (Text.Utf8.lossy line) sink, source)

end Session
end ExactFactorial
