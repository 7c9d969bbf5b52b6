import ExactFactorial.Proofs.Channel.Attempts
import ExactFactorial.Session

namespace ExactFactorial
namespace Session

open Channel

/-!
# What a faulty sink lets through

A session writes its prompt and then its answer, each followed by a flush, and reads one line
between the two.  A sink that overflows or fails to flush stops it at once.  What had been written
by then is a prefix of the prompt and the answer; what had been read or logged by then is settled by
how far the session got, and the sink has no say in it.

A flush that fails gives its fault back, whatever the kind.  A write does so with two exceptions: if
the sink accepts nothing and does not say why, the fault is worded by the writer, and if every
attempt is interrupted, the session does not end.

The law of an answer is stated for a sink that already holds some bytes.  An answer after a prompt
and an answer without one are two cases of it.
-/

/-- The bytes of the answer to a line, as a sink without faults receives them. -/
def answerBytes (session : Session) (line : String) : Bytes :=
  (session.answer line {}).sink.accepted

/-- The log of an answer, as it is with a sink without faults. -/
def answerLog (session : Session) (line : String) : List Log.Record :=
  (session.answer line {}).log

theorem answerLog_eq (session : Session) (line : String) :
    session.answerLog line = records line (session.judge line) := by
  simp only [answerLog, answer]

theorem answerBytes_eq (session : Session) (line : String) :
    session.answerBytes line =
      Text.Utf8.encode (session.reply (session.judge line) ++ "\n") := by
  have unlimited : ∀ bytes, (Sink.put {} bytes).2.accepted = bytes := by
    intro bytes
    have room : SinkRules.HasRoom {} (0 + bytes.length) := fun capacity limited => nomatch limited
    rw [Sink.put_of_room {} bytes room]
    exact List.nil_append bytes
  simp only [answerBytes, answer]
  rw [unlimited]

/-- How the answer to a line ends on a sink with these rules that holds `shown` and was flushed at
the lengths `flushed`. -/
structure AnswerLaw (session : Session) (line : String) (rules : SinkRules) (shown : Bytes)
    (flushed : List Nat) (exchange : Exchange) : Prop where
  /-- The answer does not fit. -/
  overflow : ∀ capacity, rules.capacity = some capacity →
    capacity < shown.length + (session.answerBytes line).length →
    ∃ obstacle, rules.Overflows obstacle ∧
      exchange =
        ⟨.error obstacle,
          ⟨rules, (shown ++ session.answerBytes line).take capacity, flushed⟩,
          session.answerLog line⟩
  /-- The answer fits and its flush fails. -/
  flushFails : rules.HasRoom (shown.length + (session.answerBytes line).length) →
    rules.failingFlush = some (flushed.length + 1) →
    exchange =
      ⟨.error (.fault rules.fault),
        ⟨rules, shown ++ session.answerBytes line,
          flushed ++ [shown.length + (session.answerBytes line).length]⟩,
        session.answerLog line⟩
  /-- The answer fits and its flush succeeds. -/
  delivered : rules.HasRoom (shown.length + (session.answerBytes line).length) →
    rules.failingFlush ≠ some (flushed.length + 1) →
    exchange =
      ⟨.ok (session.judge line),
        ⟨rules, shown ++ session.answerBytes line,
          flushed ++ [shown.length + (session.answerBytes line).length]⟩,
        session.answerLog line⟩

/-- Every answer obeys the law, if the bytes before it fit. -/
theorem answer_law (session : Session) (line : String) (rules : SinkRules) (shown : Bytes)
    (flushed : List Nat) (fitted : rules.HasRoom shown.length) :
    AnswerLaw session line rules shown flushed (session.answer line ⟨rules, shown, flushed⟩) where
  overflow := by
    intro capacity limited beyond
    have within : shown.length ≤ capacity := fitted capacity limited
    refine ⟨rules.overflow, rules.overflows_overflow, ?_⟩
    rw [answerBytes_eq] at beyond ⊢
    rw [answerLog_eq]
    simp only [answer]
    rw [Sink.put_of_overflow ⟨rules, shown, flushed⟩ _ limited within beyond]
    rfl
  flushFails := by
    intro room failing
    rw [answerBytes_eq] at room ⊢
    rw [answerLog_eq]
    simp only [answer]
    rw [Sink.put_of_room ⟨rules, shown, flushed⟩ _ room, if_pos failing]
    rfl
  delivered := by
    intro room succeeding
    rw [answerBytes_eq] at room ⊢
    rw [answerLog_eq]
    simp only [answer]
    rw [Sink.put_of_room ⟨rules, shown, flushed⟩ _ room, if_neg succeeding]
    rfl

/-- Whatever the sink does to an answer, it holds a prefix of what was to be written. -/
theorem AnswerLaw.accepted_begins {session : Session} {line : String} {rules : SinkRules}
    {shown : Bytes} {flushed : List Nat} {exchange : Exchange}
    (law : AnswerLaw session line rules shown flushed exchange) :
    exchange.sink.accepted <+: shown ++ session.answerBytes line := by
  by_cases room : rules.HasRoom (shown.length + (session.answerBytes line).length)
  · by_cases failing : rules.failingFlush = some (flushed.length + 1)
    · exact ⟨[], by rw [law.flushFails room failing, List.append_nil]⟩
    · exact ⟨[], by rw [law.delivered room failing, List.append_nil]⟩
  · rcases SinkRules.exists_capacity_of_not_hasRoom room with ⟨capacity, limited, beyond⟩
    rcases law.overflow capacity limited beyond with ⟨obstacle, _, stopped⟩
    rw [stopped]
    exact List.take_prefix _ _

/-! ## The prompt before the answer -/

def promptBytes (session : Session) : Bytes :=
  Text.Utf8.encode session.prompt

/-- A prompt that does not fit ends the session before anything is flushed, read or logged. -/
theorem ask_of_prompt_overflow (session : Session) (source : Source) (rules : SinkRules)
    {capacity : Nat} (limited : rules.capacity = some capacity)
    (beyond : capacity < session.promptBytes.length) :
    ∃ obstacle, rules.Overflows obstacle ∧
      session.ask source { rules } =
        (⟨.error obstacle, ⟨rules, session.promptBytes.take capacity, []⟩, []⟩, source) := by
  refine ⟨rules.overflow, rules.overflows_overflow, ?_⟩
  have past : capacity < 0 + session.promptBytes.length := by omega
  have stopped := Sink.put_of_overflow { rules } session.promptBytes limited (Nat.zero_le _) past
  rw [promptBytes] at stopped
  rw [ask, stopped]
  rfl

/-- A prompt whose flush fails ends the session before anything is read or logged. -/
theorem ask_of_prompt_flush_fails (session : Session) (source : Source) (rules : SinkRules)
    (room : rules.HasRoom session.promptBytes.length) (failing : rules.failingFlush = some 1) :
    session.ask source { rules } =
      (⟨.error (.fault rules.fault),
          ⟨rules, session.promptBytes, [session.promptBytes.length]⟩, []⟩,
        source) := by
  have enough : rules.HasRoom (0 + session.promptBytes.length) := by rwa [Nat.zero_add]
  have stopped := Sink.put_of_room { rules } session.promptBytes enough
  rw [promptBytes] at stopped
  rw [ask, stopped]
  simp only [List.length_nil, Nat.zero_add, failing, if_pos, List.nil_append]
  rfl

/-- A prompt that got out is followed by one line read, and by its answer unless reading fails. -/
theorem ask_of_prompt_delivered (session : Session) (source : Source) (rules : SinkRules)
    (room : rules.HasRoom session.promptBytes.length) (succeeding : rules.failingFlush ≠ some 1) :
    session.ask source { rules } =
      match source.readLine with
      | (.error fault, after) =>
          (⟨.error (.fault fault),
              ⟨rules, session.promptBytes, [session.promptBytes.length]⟩, []⟩,
            after)
      | (.ok line, after) =>
          (session.answer (Text.Utf8.lossy line)
            ⟨rules, session.promptBytes, [session.promptBytes.length]⟩, after) := by
  have enough : rules.HasRoom (0 + session.promptBytes.length) := by rwa [Nat.zero_add]
  have done := Sink.put_of_room { rules } session.promptBytes enough
  rw [promptBytes] at done
  rw [ask, done]
  simp only [List.length_nil, Nat.zero_add, if_neg succeeding, List.nil_append]
  rfl

/-- Whatever the sink does, it holds a prefix of the prompt and the answer. -/
theorem accepted_begins_of_read (session : Session) (source after : Source) (rules : SinkRules)
    (line : Bytes) (read : source.readLine = (.ok line, after)) :
    (session.ask source { rules }).1.sink.accepted <+:
      session.promptBytes ++ session.answerBytes (Text.Utf8.lossy line) := by
  by_cases room : rules.HasRoom session.promptBytes.length
  · by_cases failing : rules.failingFlush = some 1
    · rw [ask_of_prompt_flush_fails session source rules room failing]
      exact List.prefix_append _ _
    · rw [ask_of_prompt_delivered session source rules room failing, read]
      exact (answer_law session _ rules _ _ room).accepted_begins
  · rcases SinkRules.exists_capacity_of_not_hasRoom room with ⟨capacity, limited, beyond⟩
    rcases ask_of_prompt_overflow session source rules limited beyond with ⟨obstacle, _, stopped⟩
    rw [stopped]
    have cut := List.take_prefix capacity session.promptBytes
    exact cut.trans (List.prefix_append _ _)

/-- The answer to a line with the answer line written in pieces, one at a time. -/
def answerInPieces (session : Session) (line : String) (pieces : List Bytes) (sink : Sink) :
    Exchange :=
  let written :=
    match sink.writePieces pieces with
    | (.ok (), next) => next.flush
    | failed => failed
  ⟨written.1.map fun _ => session.judge line, written.2, records line (session.judge line)⟩

theorem answerInPieces_eq (session : Session) (line : String) (pieces : List Bytes) (sink : Sink)
    (whole : pieces.flatten = session.answerBytes line) :
    session.answerInPieces line pieces sink = session.answer line sink := by
  rw [answerBytes_eq] at whole
  rw [answerInPieces, Sink.writePieces_eq_write, whole]
  rfl

/-- A fault of the sink cuts the output to a prefix.  A flush returns it as it is, and so does a
write, but for the two exceptions.  The prompt is stopped first by its bytes and then by its flush,
with nothing read or logged.  Past the prompt, and without one, the answer obeys one and the same
law, in which the line is read and logged as if no fault had been there, and in which the pieces of
the answer line play no part.  A session that does not end has no number of attempts that would be
enough. -/
theorem sink_fault_cuts_output (session : Session) (rules : SinkRules) :
    (∀ source : Source,
      (∀ capacity, rules.capacity = some capacity → capacity < session.promptBytes.length →
        ∃ obstacle, rules.Overflows obstacle ∧
          session.ask source { rules } =
            (⟨.error obstacle, ⟨rules, session.promptBytes.take capacity, []⟩, []⟩, source)) ∧
      (rules.HasRoom session.promptBytes.length → rules.failingFlush = some 1 →
        session.ask source { rules } =
          (⟨.error (.fault rules.fault),
            ⟨rules, session.promptBytes, [session.promptBytes.length]⟩, []⟩, source)) ∧
      (∀ line after, source.readLine = (.ok line, after) →
        (rules.HasRoom session.promptBytes.length → rules.failingFlush ≠ some 1 →
          AnswerLaw session (Text.Utf8.lossy line) rules session.promptBytes
            [session.promptBytes.length] (session.ask source { rules }).1 ∧
          (session.ask source { rules }).2 = after) ∧
        (session.ask source { rules }).1.sink.accepted <+:
          session.promptBytes ++ session.answerBytes (Text.Utf8.lossy line))) ∧
    (∀ line : String, AnswerLaw session line rules [] [] (session.answer line { rules })) ∧
    (∀ (line : String) (pieces : List Bytes) (sink : Sink),
      pieces.flatten = session.answerBytes line →
      session.answerInPieces line pieces sink = session.answer line sink) ∧
    (∀ (sink : Sink) (bytes : Bytes),
      (sink.write bytes).1 = .error .stall ↔
        ∀ limit, Sink.writeWithin limit sink bytes = none) := by
  refine ⟨fun source => ⟨?_, ?_, ?_⟩, ?_, session.answerInPieces_eq, Sink.write_stalls_iff⟩
  · intro capacity limited beyond
    exact ask_of_prompt_overflow session source rules limited beyond
  · intro room failing
    exact ask_of_prompt_flush_fails session source rules room failing
  · intro line after read
    refine ⟨fun room succeeding => ?_, accepted_begins_of_read session source after rules line read⟩
    rw [ask_of_prompt_delivered session source rules room succeeding, read]
    exact ⟨answer_law session _ rules _ _ room, rfl⟩
  · intro line
    exact answer_law session line rules [] [] fun capacity _ => Nat.zero_le capacity

/-- An accented letter on a line. -/
def accentedLine : Source := { chunks := [.bytes [0xC3, 0xA9, 0x0A]] }

/-- Room for the short prompt and for the answer up to the first byte of that letter. -/
def fiveBytes : SinkRules :=
  { capacity := some 5, fault := ⟨.named "TimedOut", "injected"⟩ }

/-- The second flush is interrupted, and no one tries it again. -/
def interruptedFlush : SinkRules :=
  { failingFlush := some 2, fault := ⟨.interrupted, "injected"⟩ }

/-- The answer is cut within the letter, and the interruption of its flush is returned. -/
theorem accented_answer_cut :
    ask { prompt := "n? " } accentedLine { rules := fiveBytes } =
        (⟨.error (.fault ⟨.named "TimedOut", "injected"⟩),
            ⟨fiveBytes, [0x6E, 0x3F, 0x20, 0x60, 0xC3], [3]⟩,
            answerLog { prompt := "n? " } "é\n"⟩,
          { consumed := 3 }) ∧
      (ask { prompt := "n? " } accentedLine { rules := interruptedFlush }).1.result =
        .error (.fault ⟨.interrupted, "injected"⟩) := by
  have read : accentedLine.readLine = (.ok [0xC3, 0xA9, 0x0A], { consumed := 3 }) := rfl
  constructor
  · have law := (sink_fault_cuts_output { prompt := "n? " } fiveBytes).1 accentedLine
    have room : fiveBytes.HasRoom (promptBytes { prompt := "n? " }).length := by
      rintro capacity ⟨⟩
      decide
    rcases (law.2.2 _ _ read).1 room (by decide) with ⟨answered, drained⟩
    rcases answered.overflow 5 rfl (by decide) with ⟨obstacle, given, cut⟩
    cases given with
    | returned => exact Prod.ext cut drained
    | unexplained kind => cases kind
    | stalled kind => cases kind
  · have law := (sink_fault_cuts_output { prompt := "n? " } interruptedFlush).1 accentedLine
    have room : ∀ length, interruptedFlush.HasRoom length := by
      rintro length capacity ⟨⟩
    rcases (law.2.2 _ _ read).1 (room _) (by decide) with ⟨answered, _⟩
    rw [answered.flushFails (room _) rfl]
    rfl

/-- A sink for eight bytes, whose fault is of this kind. -/
def eightBytes (kind : FaultKind) : Sink :=
  { rules := { capacity := some 8, fault := ⟨kind, "injected"⟩ } }

/-- In neither exception is the fault of the sink returned. -/
theorem full_sink_withholds_fault :
    8 < (answerBytes {} "5").length ∧
      (answer {} "5" (eightBytes .writeZero)).result =
        .error (.fault ⟨.writeZero, "failed to write whole buffer"⟩) ∧
      (answer {} "5" (eightBytes .interrupted)).result ≠
        .error (.fault ⟨.interrupted, "injected"⟩) ∧
      ∀ limit, Sink.writeWithin limit (eightBytes .interrupted) (answerBytes {} "5") = none := by
  refine ⟨by decide, rfl, ?_, ?_⟩
  · have stalled : (answer {} "5" (eightBytes .interrupted)).result = .error .stall := rfl
    rw [stalled]
    exact fun same => nomatch same
  · exact (Sink.write_stalls_iff _ _).mp rfl

end Session
end ExactFactorial
