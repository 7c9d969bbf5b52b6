import ExactFactorial.Proofs.Calculator.Log
import ExactFactorial.Proofs.Session.Hearing
import ExactFactorial.Proofs.Text.Unquoting

namespace ExactFactorial
namespace Session

open Channel

/-!
# What the log gives away

A refused line leaves one record for information, and a line with a value leaves none.  The record
quotes the trimmed line and goes on with the message, which may repeat the same text without any
quoting.  The quoted text is known by itself, so that the record tells the line up to the blanks
around it.  A verdict goes by the trimmed line, and therefore the record tells the verdict as well,
with a negative number that the answer keeps back.
-/

/-- The records of one level. -/
def recordsAt (level : Log.Level) (log : List Log.Record) : List Log.Record :=
  log.filter fun record => record.level = level

/-- The record of a refused line. -/
def refusalRecord (line : String) (refusal : Refusal) : Log.Record :=
  ⟨.info, .session, "rejected input " ++ Text.quote (Text.trim line) ++ ": " ++ refusal.message⟩

/-- A value leaves no record for information. -/
theorem recordsAt_info_of_computed (n : Int) (value : Nat) :
    recordsAt .info (Calculator.records n value) = [] := by
  apply List.filter_eq_nil_iff.mpr
  intro record member
  rcases Calculator.eq_of_mem_records member with rfl | rfl <;> exact Bool.false_ne_true

theorem log_answer (session : Session) (line : String) (sink : Sink) :
    (session.answer line sink).log = records line (session.judge line) := by
  rw [answer]

/-- The verdict that an exchange comes to is the one on its line. -/
theorem verdict_of_result {session : Session} {line : String} {sink : Sink} {verdict : Verdict}
    (result : (session.answer line sink).result = .ok verdict) :
    verdict = session.judge line := by
  rw [answer] at result
  rcases (Numeral.map_eq_ok_iff _ _ _).mp result with ⟨_, _, same⟩
  exact same.symm

/-- A record for information tells the line and is there for a refusal only. -/
theorem refusal_of_record {session : Session} {line : String} {sink : Sink} {record : Log.Record}
    (member : record ∈ recordsAt .info (session.answer line sink).log) :
    ∃ refusal, session.judge line = .refused refusal ∧ record = refusalRecord line refusal := by
  rw [log_answer] at member
  cases judged : session.judge line with
  | computed n value =>
      rw [judged, records, recordsAt_info_of_computed] at member
      cases member
  | refused refusal =>
      rw [judged] at member
      exact ⟨refusal, rfl, List.mem_singleton.mp member⟩

/-- The record tells the trimmed line, whatever the message behind it is. -/
theorem trim_of_message {left right : String} {refusal other : Refusal}
    (same : (refusalRecord left refusal).message = (refusalRecord right other).message) :
    Text.trim left = Text.trim right := by
  simp only [refusalRecord, String.append_assoc] at same
  exact (Text.quote_append_inj ((String.append_right_inj "rejected input ").mp same)).1

/-- Which records a verdict leaves. -/
theorem recordsAt_iff (line : String) (verdict : Verdict) :
    ((∃ refusal, verdict = .refused refusal) ↔
      (recordsAt .info (records line verdict)).length = 1 ∧
      recordsAt .debug (records line verdict) = []) ∧
    ((∃ n value, verdict = .computed n value) ↔ recordsAt .info (records line verdict) = []) := by
  cases verdict with
  | computed n value =>
      rw [records, recordsAt_info_of_computed]
      constructor
      · apply iff_of_false
        · rintro ⟨refusal, impossible⟩
          cases impossible
        · rintro ⟨impossible, _⟩
          cases impossible
      · exact iff_of_true ⟨n, value, rfl⟩ rfl
  | refused refusal =>
      constructor
      · exact iff_of_true ⟨refusal, rfl⟩ ⟨rfl, rfl⟩
      · apply iff_of_false
        · rintro ⟨n, value, impossible⟩
          cases impossible
        · intro impossible
          cases impossible

/-- Lines with the same trimmed text lead to the same exchange. -/
theorem answer_eq_of_trim_eq (session : Session) {left right : String} (sink : Sink)
    (same : Text.trim left = Text.trim right) :
    session.answer left sink = session.answer right sink := by
  have traces : ∀ verdict, records left verdict = records right verdict := by
    intro verdict
    cases verdict with
    | computed n value => rfl
    | refused refusal => rw [records, records, same]
  rw [answer, answer, session.judge_eq_of_trim_eq same, traces]

/-- Who sees the log knows which line was refused.  On every sink a line leaves one record for
information, and none about a computation, exactly when it is refused, and no record for information
exactly when it comes to a value.  The record of a refused line quotes the trimmed line and gives
the message.  Lines with the same record are the same up to the blanks around them, and have the
same verdict. -/
theorem log_identifies_refused_line (session : Session) :
    (∀ (line : String) (sink : Sink),
      ((∃ refusal, session.judge line = .refused refusal) ↔
        (recordsAt .info (session.answer line sink).log).length = 1 ∧
        recordsAt .debug (session.answer line sink).log = []) ∧
      ((∃ n value, session.judge line = .computed n value) ↔
        recordsAt .info (session.answer line sink).log = []) ∧
      (∀ refusal, session.judge line = .refused refusal →
        recordsAt .info (session.answer line sink).log = [refusalRecord line refusal]) ∧
      (∀ verdict, (session.answer line sink).result = .ok verdict →
        verdict = session.judge line) ∧
      (sink.rules.Reliable → (session.answer line sink).result = .ok (session.judge line))) ∧
    (∀ (left right : String) (sink other : Sink) (first second : Log.Record),
      first ∈ recordsAt .info (session.answer left sink).log →
      second ∈ recordsAt .info (session.answer right other).log →
      first.message = second.message →
      Text.trim left = Text.trim right ∧
      (∃ refusal, session.judge left = .refused refusal ∧ session.judge right = .refused refusal) ∧
      ∀ channel : Sink, session.answer left channel = session.answer right channel) := by
  constructor
  · intro line sink
    rw [log_answer]
    rcases recordsAt_iff line (session.judge line) with ⟨refused, computed⟩
    refine ⟨refused, computed, ?_, fun _ => verdict_of_result, ?_⟩
    · intro refusal judged
      rw [judged]
      rfl
    · intro reliable
      exact (answered_answer session line sink reliable).result
  · intro left right sink other first second member otherMember same
    rcases refusal_of_record member with ⟨refusal, judged, rfl⟩
    rcases refusal_of_record otherMember with ⟨otherRefusal, _, rfl⟩
    have trimmed := trim_of_message same
    have alike := session.judge_eq_of_trim_eq trimmed
    exact ⟨trimmed, ⟨refusal, judged, alike.symm.trans judged⟩,
      fun channel => session.answer_eq_of_trim_eq channel trimmed⟩

/-- A text that closes a quote by itself and goes on with a colon, a backslash and a control. -/
def forgedQuote : String :=
  "5\": \\\x1b"

/-- The text is known from its record, with and without blanks around it. -/
theorem forged_quote_known_from_log :
    recordsAt .info (answer {} forgedQuote {}).log =
      [refusalRecord forgedQuote (.notInteger forgedQuote .invalidDigit)] ∧
    Text.trim "\t5\": \\\x1b\n" = Text.trim forgedQuote ∧
    (∃ refusal, judge {} "\t5\": \\\x1b\n" = .refused refusal ∧
      judge {} forgedQuote = .refused refusal) ∧
    ∀ channel : Sink, answer {} "\t5\": \\\x1b\n" channel = answer {} forgedQuote channel := by
  have judged : judge {} forgedQuote = .refused (.notInteger forgedQuote .invalidDigit) := by
    decide
  have told := ((log_identifies_refused_line {}).1 forgedQuote {}).2.2.1 _ judged
  have padded : recordsAt .info (answer {} "\t5\": \\\x1b\n" {}).log =
      [refusalRecord forgedQuote (.notInteger forgedQuote .invalidDigit)] := by decide
  have first := List.mem_singleton_self
    (refusalRecord forgedQuote (.notInteger forgedQuote .invalidDigit))
  have second := first
  rw [← padded] at first
  rw [← told] at second
  exact ⟨told, (log_identifies_refused_line {}).2 _ _ {} {} _ _ first second rfl⟩

end Session
end ExactFactorial
