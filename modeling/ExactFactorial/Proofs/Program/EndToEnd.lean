import ExactFactorial.Program
import ExactFactorial.Proofs.Calculator.Exact
import ExactFactorial.Proofs.CommandLine.AnyOrder
import ExactFactorial.Proofs.Session.Hearing

namespace ExactFactorial

open Text.Utf8 (encode)

/-!
# From the command line to the answer

A run goes through five stages: the settings file, the reading of the arguments, the plan, the
session and the sink.  Each stage has its own theory.  Here they are put together for the runs that
the program is there for, which ask for the factorial of one number.  What the answer should be is
written down beforehand, without a look at any of the stages.
-/

/-! ## The answer to a number -/

/-- The line that a number should be answered with. -/
def answerLine (ceiling : Option Nat) (digitsOnly : Bool) (n : Int) : String :=
  if n < 0 then "Factorial is only defined for non-negative integers."
  else
    match ceiling.filter fun limit : Nat => (limit : Int) < n with
    | some limit => toString n ++ "! is above the configured limit of " ++ toString limit
    | none =>
        let value := toString n.toNat.factorial
        if digitsOnly then toString n ++ "! has " ++ toString value.length ++ " digits"
        else toString n ++ "! = " ++ value

theorem lineEnd_not_mem_toString_int64 (n : Int64) : '\n' ∉ (toString n.toInt).toList := by
  intro member
  exact absurd ((Numeral.spellsSigned_toString n).mem member) (by decide)

/-- The answer is one line. -/
theorem lineEnd_not_mem_answerLine (ceiling : Option Nat) (digitsOnly : Bool) (n : Int64) :
    '\n' ∉ (answerLine ceiling digitsOnly n.toInt).toList := by
  have number := lineEnd_not_mem_toString_int64 n
  unfold answerLine
  split
  · decide
  · split
    · simp only [String.toList_append, List.mem_append, number,
        Numeral.lineEnd_not_mem_toString_nat]
      decide
    · split <;>
        simp only [String.toList_append, List.mem_append, number,
          Numeral.lineEnd_not_mem_toString_nat] <;>
        decide

namespace Session

theorem judge_toString (session : Session) (n : Int64) :
    session.judge (toString n.toInt) =
      match session.calculator.compute n.toInt with
      | .ok value => .computed n.toInt value
      | .error refusal => .refused refusal := by
  rw [judge, Calculator.computeText_toString]
  cases session.calculator.compute n.toInt <;> rfl

/-- The decimal text of a number is answered as it should be. -/
theorem reply_judge_toString (session : Session) (n : Int64) :
    session.reply (session.judge (toString n.toInt)) =
      answerLine session.calculator.ceiling session.digitsOnly n.toInt := by
  rw [judge_toString, answerLine]
  by_cases negative : n.toInt < 0
  · rw [Calculator.compute_of_negative negative, if_pos negative]
    rfl
  · have nonneg : 0 ≤ n.toInt := by omega
    rw [if_neg negative]
    cases found : session.calculator.ceiling.filter fun limit : Nat => (limit : Int) < n.toInt with
    | some limit =>
        obtain ⟨given, above⟩ := Option.filter_eq_some_iff.mp found
        rw [Calculator.compute_of_above nonneg given (of_decide_eq_true above),
          Numeral.toString_of_nonneg nonneg]
        rfl
    | none =>
        rw [Calculator.compute_of_within nonneg]
        · rfl
        · intro limit given
          simpa using Option.filter_eq_none_iff.mp found limit given

end Session

/-! ## Settings that say nothing -/

/-- The settings file is missing or empty. -/
def Settings.Silent (environment : Settings.Environment) (files : Storage.FileTree) : Prop :=
  files.find (environment.settingsFile files.isFile) = .error .missing ∨
    files.find (environment.settingsFile files.isFile) = .ok (.file [])

theorem Settings.Silent.arguments_eq {environment : Settings.Environment}
    {files : Storage.FileTree} (silent : Settings.Silent environment files) :
    (Settings.locate environment files).2.arguments = [] := by
  rcases silent with missing | empty
  · simp only [Settings.locate, Storage.FileTree.read, missing]
    rfl
  · simp only [Settings.locate, Storage.FileTree.read, empty]
    rfl

namespace Program

/-- Then the arguments of the run are those that were given. -/
theorem fullArguments_of_silent {environment : Settings.Environment} {files : Storage.FileTree}
    (silent : Settings.Silent environment files) (program : Bytes) (arguments : List Bytes) :
    fullArguments (Settings.locate environment files).2 (program :: arguments) =
      program :: arguments := by
  rw [fullArguments, silent.arguments_eq]
  rfl

/-! ## Runs that answer -/

theorem run_of_answer {invocation : Invocation} {session : Session} {line : String}
    (reliable : invocation.output.rules.Reliable)
    (planned : plan (fullArguments
        (Settings.locate invocation.environment invocation.files).2 invocation.arguments) =
      .answer session line) :
    ∃ report, run invocation = .finished report ∧ report.code = 0 ∧
      report.input = invocation.input ∧
      report.output.accepted = invocation.output.accepted ++ session.answerBytes line := by
  have answered := Session.answered_answer session line invocation.output reliable
  simp only [run, planned, answered.result]
  exact ⟨_, rfl, rfl, rfl, answered.accepted⟩

theorem run_of_ask {invocation : Invocation} {session : Session} {text : String}
    {closing : List Channel.Signal} (reliable : invocation.output.rules.Reliable)
    (planned : plan (fullArguments
        (Settings.locate invocation.environment invocation.files).2 invocation.arguments) =
      .ask session)
    (oneLine : '\n' ∉ text.toList)
    (delivered : Channel.signals invocation.input.chunks =
      (encode text).map Channel.Signal.byte ++ closing)
    (closes : Session.Closing closing) :
    ∃ report, run invocation = .finished report ∧ report.code = 0 ∧
      report.output.accepted =
        invocation.output.accepted ++ session.promptBytes ++ session.answerBytes text := by
  have unpadded : Channel.signals invocation.input.chunks =
      (encode ("" ++ text ++ "")).map Channel.Signal.byte ++ closing := by
    simpa using delivered
  have answered := Session.answered_ask_padded session reliable (by decide) (by decide)
    (by simpa using oneLine) unpadded closes
  simp only [run, planned, answered.result]
  exact ⟨_, rfl, rfl, answered.accepted⟩

/-- The session that a ceiling and a flag ask for. -/
def groupSession (ceiling : Option UInt64) (digits : Bool) : Session where
  calculator := { ceiling := ceiling.map UInt64.toNat }
  digitsOnly := digits

theorem plan_groups (program : Bytes) {order : List (List String)} {ceiling : Option UInt64}
    {digits : Bool} {number : Option Int64}
    (shuffled : order.Perm (CommandLine.groups ceiling digits number)) :
    plan (program :: order.flatten.map encode) =
      match number with
      | some n => .answer (groupSession ceiling digits) (toString n.toInt)
      | none => .ask (groupSession ceiling digits) := by
  rw [plan, CommandLine.read_groups program shuffled]
  cases number <;> rfl

theorem answerBytes_groupSession (ceiling : Option UInt64) (digits : Bool) (n : Int64) :
    (groupSession ceiling digits).answerBytes (toString n.toInt) =
      encode (answerLine (ceiling.map UInt64.toNat) digits n.toInt ++ "\n") := by
  rw [Session.answerBytes_eq, Session.reply_judge_toString]
  rfl

/-- The program answers every number as it should.  Started with a number, and in any order with a
ceiling and the flag for digits if they are wanted, it reads nothing and writes one line.  Started
without the number, it writes the prompt and the same line when the number is the first line of its
input.  Neither a negative number nor one above the ceiling makes the run fail. -/
theorem every_number_answered (invocation : Invocation) (program : Bytes)
    (order : List (List String)) (n : Int64) (ceiling : Option UInt64) (digits : Bool)
    (silent : Settings.Silent invocation.environment invocation.files)
    (reliable : invocation.output.rules.Reliable)
    (started : invocation.arguments = program :: order.flatten.map encode) :
    '\n' ∉ (answerLine (ceiling.map UInt64.toNat) digits n.toInt).toList ∧
    (order.Perm (CommandLine.groups ceiling digits (some n)) →
      ∃ report, run invocation = .finished report ∧ report.code = 0 ∧
        report.input = invocation.input ∧
        report.output.accepted = invocation.output.accepted ++
          encode (answerLine (ceiling.map UInt64.toNat) digits n.toInt ++ "\n")) ∧
    (order.Perm (CommandLine.groups ceiling digits none) →
      ∀ closing, Session.Closing closing →
        Channel.signals invocation.input.chunks =
          (encode (toString n.toInt)).map Channel.Signal.byte ++ closing →
        ∃ report, run invocation = .finished report ∧ report.code = 0 ∧
          report.output.accepted = invocation.output.accepted ++
            encode (defaultPrompt ++
              (answerLine (ceiling.map UInt64.toNat) digits n.toInt ++ "\n"))) := by
  have full : fullArguments (Settings.locate invocation.environment invocation.files).2
      invocation.arguments = program :: order.flatten.map encode := by
    rw [started, fullArguments_of_silent silent]
  refine ⟨lineEnd_not_mem_answerLine _ _ n, ?_, ?_⟩
  · intro shuffled
    have planned := plan_groups program shuffled
    rw [← full] at planned
    rw [← answerBytes_groupSession]
    exact run_of_answer reliable planned
  · intro shuffled closing closes delivered
    have planned := plan_groups program shuffled
    rw [← full] at planned
    have oneLine := lineEnd_not_mem_toString_int64 n
    -- Rewritten by name, because matching the goal up to evaluation would encode the prompt.
    have prompted : (groupSession ceiling digits).promptBytes = encode defaultPrompt := rfl
    rw [Text.Utf8.encode_append, ← answerBytes_groupSession, ← prompted, ← List.append_assoc]
    exact run_of_ask reliable planned oneLine delivered closes

/-- A number at its ceiling, given before the ceiling and read from the input. -/
theorem twelve_answered :
    (∃ report,
      run { arguments := ["factorial", "12", "--digits", "--limit", "12"].map encode,
            environment := { home := [] }, files := .empty [] } = .finished report ∧
        report.code = 0 ∧ report.input = {} ∧
        report.output.accepted = [] ++ encode ("12! has 9 digits" ++ "\n")) ∧
    (∃ report,
      run { arguments := ["factorial", "--digits", "--limit", "12"].map encode,
            environment := { home := [] }, files := .empty [],
            input := .ofBytes (encode "12\n7") } = .finished report ∧
        report.code = 0 ∧
        report.output.accepted =
          [] ++ encode (defaultPrompt ++ ("12! has 9 digits" ++ "\n"))) :=
  ⟨(every_number_answered
      { arguments := ["factorial", "12", "--digits", "--limit", "12"].map encode,
        environment := { home := [] }, files := .empty [] }
      (encode "factorial") [["12"], ["--digits"], ["--limit", "12"]] 12 (some 12) true
      (.inl rfl) ⟨rfl, rfl⟩ rfl).2.1 (by decide),
    (every_number_answered
      { arguments := ["factorial", "--digits", "--limit", "12"].map encode,
        environment := { home := [] }, files := .empty [],
        input := .ofBytes (encode "12\n7") }
      (encode "factorial") [["--digits"], ["--limit", "12"]] 12 (some 12) true
      (.inl rfl) ⟨rfl, rfl⟩ rfl).2.2 (by decide) _ (.lineEnd [.byte 0x37]) rfl⟩

end Program
end ExactFactorial
