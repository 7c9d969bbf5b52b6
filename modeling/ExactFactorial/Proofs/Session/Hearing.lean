import ExactFactorial.Proofs.Channel.Lines
import ExactFactorial.Proofs.Numeral.Faults
import ExactFactorial.Proofs.Session.Delivery
import ExactFactorial.Proofs.Text.Trimming
import ExactFactorial.Proofs.Text.WellFormed

namespace ExactFactorial
namespace Session

open Channel
open Text.Utf8 (encode lossy replacement)

/-!
# A line that is heard

A line comes from a source as bytes, with its line end and with whatever blanks were typed around
it.  A line that is given comes as a text.  The two ways to come by a line lead to one and the same
answer, because a line is judged, logged and quoted by its trimmed text alone, and because bytes are
cut at a line end only, which is never a part of a longer character.

Bytes that spell no text are heard as well.  They are marked, the mark outlives the trimming, and no
numeral has a place for it.
-/

/-! ## Exchanges that go through -/

/-- The exchange answers a line, on a sink to which certain bytes were shown before. -/
structure Answered (session : Session) (line : String) (shown : Bytes) (exchange : Exchange) :
    Prop where
  result : exchange.result = .ok (session.judge line)
  accepted : exchange.sink.accepted = shown ++ session.answerBytes line
  log : exchange.log = records line (session.judge line)

theorem answered_answer (session : Session) (line : String) (sink : Sink)
    (reliable : sink.rules.Reliable) :
    Answered session line sink.accepted (session.answer line sink) := by
  have law := answer_law session line sink.rules sink.accepted sink.flushes (reliable.hasRoom _)
  have delivered := law.delivered (reliable.hasRoom _) (reliable.failingFlush_ne _)
  have same : session.answer line sink = _ := delivered
  constructor
  · rw [same]
  · rw [same]
  · rw [same, answerLog_eq]

/-- On a reliable sink the prompt is followed by the answer to the line at the start of the source,
if no fault cuts that line short. -/
theorem answered_ask (session : Session) {source : Source} {sink : Sink} {line : Bytes}
    {rest : List Signal} (reliable : sink.rules.Reliable)
    (first : Line (signals source.chunks) line none rest) :
    Answered session (lossy line) (sink.accepted ++ session.promptBytes)
      (session.ask source sink).1 := by
  have prompted := Sink.put_of_room sink session.promptBytes (reliable.hasRoom _)
  rw [if_neg (reliable.failingFlush_ne _)] at prompted
  rw [promptBytes] at prompted
  simp only [ask, prompted, Source.readLine_of_line first]
  exact answered_answer session (lossy line)
    ⟨sink.rules, sink.accepted ++ session.promptBytes, _⟩ reliable

/-- A verdict goes by the trimmed text of the line. -/
theorem judge_eq_of_trim_eq (session : Session) {left right : String}
    (same : Text.trim left = Text.trim right) : session.judge left = session.judge right := by
  simp only [judge, Calculator.computeText, readNumber, same]

/-- Lines with the same trimmed text are answered alike. -/
theorem Answered.of_trim_eq {session : Session} {left right : String} {shown : Bytes}
    {exchange : Exchange} (answered : Answered session left shown exchange)
    (same : Text.trim left = Text.trim right) : Answered session right shown exchange := by
  have judged := judge_eq_of_trim_eq session same
  constructor
  · rw [answered.result, judged]
  · rw [answered.accepted, answerBytes_eq, answerBytes_eq, judged]
  · rw [answered.log, judged]
    cases session.judge right with
    | computed n value => rfl
    | refused refusal => simp only [records, same]

/-! ## Lines with blanks around them -/

/-- What may follow the bytes of a line: nothing more, a pause, or a line end, perhaps after a
carriage return, and then anything. -/
inductive Closing : List Signal → Prop
  | exhausted : Closing []
  | paused (rest : List Signal) : Closing (.pause :: rest)
  | lineEnd (rest : List Signal) : Closing (.byte lineEnd :: rest)
  | carriageReturn (rest : List Signal) : Closing (.byte 0x0D :: .byte Channel.lineEnd :: rest)

/-- The line that was closed, with a blank ending. -/
theorem Closing.exists_line {closing : List Signal} (closes : Closing closing) {text : String}
    (oneLine : '\n' ∉ text.toList) :
    ∃ (ending : String) (rest : List Signal), Text.AllBlank ending.toList ∧
      Line ((encode text).map Signal.byte ++ closing) (encode (text ++ ending)) none rest := by
  have unended : Channel.lineEnd ∉ encode text := fun member =>
    oneLine (Text.Utf8.mem_of_mem_encode (by decide) member)
  cases closes with
  | exhausted =>
      refine ⟨"", [], by decide, ?_⟩
      simpa using Line.exhausted (encode text) unended
  | paused rest =>
      refine ⟨"", rest, by decide, ?_⟩
      simpa using Line.paused (encode text) rest unended
  | lineEnd rest =>
      refine ⟨"\n", rest, by decide, ?_⟩
      have byte : encode "\n" = [Channel.lineEnd] := by decide
      rw [Text.Utf8.encode_append, byte]
      exact .ended (encode text) rest unended
  | carriageReturn rest =>
      refine ⟨"\r\n", rest, by decide, ?_⟩
      have returned : Channel.lineEnd ∉ encode text ++ [0x0D] := by
        simp only [List.mem_append, List.mem_singleton, not_or]
        exact ⟨unended, by decide⟩
      have bytes : encode "\r\n" = [0x0D, Channel.lineEnd] := by decide
      rw [Text.Utf8.encode_append, bytes]
      simpa using Line.ended (encode text ++ [0x0D]) rest returned

/-- A text in a closed line, with blanks around it, is answered as the text itself. -/
theorem answered_ask_padded (session : Session) {source : Source} {sink : Sink}
    {left text right : String} {closing : List Signal} (reliable : sink.rules.Reliable)
    (leftBlank : Text.AllBlank left.toList) (rightBlank : Text.AllBlank right.toList)
    (oneLine : '\n' ∉ (left ++ text ++ right).toList)
    (delivered : signals source.chunks =
      (encode (left ++ text ++ right)).map Signal.byte ++ closing)
    (closes : Closing closing) :
    Answered session text (sink.accepted ++ session.promptBytes) (session.ask source sink).1 := by
  obtain ⟨ending, rest, endingBlank, line⟩ := closes.exists_line oneLine
  rw [← delivered] at line
  have answered := answered_ask session reliable line
  rw [Text.Utf8.lossy_encode] at answered
  apply answered.of_trim_eq
  have padded : left ++ text ++ right ++ ending = left ++ text ++ (right ++ ending) :=
    String.append_assoc
  have blank : Text.AllBlank (right ++ ending).toList := by
    intro c member
    rw [String.toList_append, List.mem_append] at member
    exact member.elim (rightBlank c) (endingBlank c)
  rw [padded, Text.trim_between text leftBlank blank]

/-- A line from a source and a line that was given are answered alike.  Blanks around the text, the
way the line ends and what comes after it make no difference to the verdict, to the log and to what
is written after the prompt. -/
theorem padded_line_answered_alike (session : Session) (source : Source) (sink other : Sink)
    (left text right : String) {closing : List Signal} (sinkReliable : sink.rules.Reliable)
    (otherReliable : other.rules.Reliable) (leftBlank : Text.AllBlank left.toList)
    (rightBlank : Text.AllBlank right.toList) (oneLine : '\n' ∉ (left ++ text ++ right).toList)
    (delivered : signals source.chunks =
      (encode (left ++ text ++ right)).map Signal.byte ++ closing)
    (closes : Closing closing) :
    ∃ (verdict : Verdict) (written : Bytes),
      (session.answer text other).result = .ok verdict ∧
      (session.answer text other).sink.accepted = other.accepted ++ written ∧
      (session.ask source sink).1.result = .ok verdict ∧
      (session.ask source sink).1.sink.accepted =
        sink.accepted ++ encode session.prompt ++ written ∧
      (session.ask source sink).1.log = (session.answer text other).log := by
  have given := answered_answer session text other otherReliable
  have heard := answered_ask_padded session sinkReliable leftBlank rightBlank oneLine delivered
    closes
  exact ⟨_, _, given.result, given.accepted, heard.result, heard.accepted,
    heard.log.trans given.log.symm⟩

/-- A number after blanks of one and of two bytes, cut in the middle of the longer one, and before a
carriage return and bytes that spell no text. -/
theorem padded_line_in_chunks :
    ∃ (verdict : Verdict) (written : Bytes),
      (answer {} "7" {}).result = .ok verdict ∧
      (answer {} "7" {}).sink.accepted = [] ++ written ∧
      (ask {} { chunks := [.bytes [0x20, 0xC2], .bytes [0xA0, 0x37, 0x0D, 0x0A, 0xFF]] }
        {}).1.result = .ok verdict ∧
      (ask {} { chunks := [.bytes [0x20, 0xC2], .bytes [0xA0, 0x37, 0x0D, 0x0A, 0xFF]] }
        {}).1.sink.accepted = [] ++ encode defaultPrompt ++ written ∧
      (ask {} { chunks := [.bytes [0x20, 0xC2], .bytes [0xA0, 0x37, 0x0D, 0x0A, 0xFF]] }
        {}).1.log = (answer {} "7" {}).log :=
  padded_line_answered_alike {} _ {} {} " \u00a0" "7" "" ⟨rfl, rfl⟩ ⟨rfl, rfl⟩ (by decide)
    (by decide) (by decide) rfl (.carriageReturn [.byte 0xFF])

/-! ## Lines that spell no text -/

/-- A line that is no number is refused for what is wrong with it. -/
theorem judge_of_unread (session : Session) {line : String} {refusal : Refusal}
    (rejected : readNumber line = .error refusal) : session.judge line = .refused refusal := by
  simp only [judge, Calculator.computeText, rejected]
  rfl

/-- A line whose trimmed text is no numeral is refused, with that text. -/
theorem judge_of_flaw (session : Session) {line : String} {flaw : Numeral.Flaw}
    (unreadable : Numeral.readSigned (Text.trim line).toList = .error flaw) :
    session.judge line = .refused (.notInteger (Text.trim line) flaw) := by
  apply session.judge_of_unread
  rw [readNumber, unreadable]
  rfl

/-- The mark of malformed bytes is kept when a line is trimmed. -/
theorem replacement_mem_trim {line : Bytes} (malformed : ∀ text, encode text ≠ line) :
    replacement ∈ (Text.trim (lossy line)).toList := by
  rw [Text.trim, String.toList_ofList]
  exact Text.mem_trimmed (Text.Utf8.replacement_mem_lossy malformed) (by decide)

/-- No numeral contains the mark, and what contains it is not empty. -/
theorem exists_flaw_of_replacement {chars : List Char} (marked : replacement ∈ chars) :
    ∃ flaw, (flaw = .invalidDigit ∨ flaw = .tooLarge ∨ flaw = .tooSmall) ∧
      Numeral.readSigned chars = .error flaw := by
  cases read : Numeral.readSigned chars with
  | ok n =>
      have spelled := (Numeral.readSigned_eq_ok_iff chars n).mp read
      exact absurd (spelled.mem marked) (by decide)
  | error flaw =>
      refine ⟨flaw, ?_, rfl⟩
      cases flaw with
      | empty =>
          have explains := (Numeral.readSigned_eq_error_iff chars .empty).mp read
          rw [explains.empty.mp rfl] at marked
          cases marked
      | invalidDigit => exact .inl rfl
      | tooLarge => exact .inr (.inl rfl)
      | tooSmall => exact .inr (.inr rfl)

/-- A line that spells no text is always a refused line.  It is never a fault, nothing is computed,
and the only record is about the refusal, which quotes a text with the mark in it. -/
theorem malformed_line_refused (session : Session) (source : Source) (sink : Sink)
    (reliable : sink.rules.Reliable) {line : Bytes} {rest : List Signal}
    (first : Line (signals source.chunks) line none rest)
    (malformed : ∀ text, encode text ≠ line) :
    ∃ (input : String) (flaw : Numeral.Flaw),
      (session.ask source sink).1.result = .ok (.refused (.notInteger input flaw)) ∧
      input = Text.trim (lossy line) ∧ replacement ∈ input.toList ∧
      (flaw = .invalidDigit ∨ flaw = .tooLarge ∨ flaw = .tooSmall) ∧
      (session.ask source sink).1.log =
        [⟨.info, .session, "rejected input " ++ Text.quote input ++ ": " ++
          (Refusal.notInteger input flaw).message⟩] := by
  have marked := replacement_mem_trim malformed
  obtain ⟨flaw, known, unreadable⟩ := exists_flaw_of_replacement marked
  have judged := judge_of_flaw session unreadable
  have answered := answered_ask session reliable first
  refine ⟨_, flaw, ?_, rfl, marked, known, ?_⟩
  · rw [answered.result, judged]
  · rw [answered.log, judged]
    rfl

/-- A number with the start of a longer character after it, in the first of two lines. -/
theorem broken_line_refused :
    ∃ (input : String) (flaw : Numeral.Flaw),
      (ask {} (.ofBytes [0x2D, 0x35, 0xE2, 0x82, lineEnd, 0x35]) {}).1.result =
        .ok (.refused (.notInteger input flaw)) ∧
      input = Text.trim (lossy [0x2D, 0x35, 0xE2, 0x82, lineEnd]) ∧ replacement ∈ input.toList ∧
      (flaw = .invalidDigit ∨ flaw = .tooLarge ∨ flaw = .tooSmall) ∧
      (ask {} (.ofBytes [0x2D, 0x35, 0xE2, 0x82, lineEnd, 0x35]) {}).1.log =
        [⟨.info, .session, "rejected input " ++ Text.quote input ++ ": " ++
          (Refusal.notInteger input flaw).message⟩] := by
  have first : Line (signals [.bytes [0x2D, 0x35, 0xE2, 0x82, lineEnd, 0x35]])
      [0x2D, 0x35, 0xE2, 0x82, lineEnd] none [.byte 0x35] :=
    .ended [0x2D, 0x35, 0xE2, 0x82] [.byte 0x35] (by decide)
  have malformed : ∀ text, encode text ≠ [0x2D, 0x35, 0xE2, 0x82, lineEnd] := by
    intro text same
    have spelled := Text.Utf8.isText_encode text
    rw [same] at spelled
    exact absurd spelled (by decide)
  exact malformed_line_refused {} _ {} ⟨rfl, rfl⟩ first malformed

end Session
end ExactFactorial
