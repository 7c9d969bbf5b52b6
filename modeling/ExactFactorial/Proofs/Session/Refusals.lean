import ExactFactorial.Proofs.Calculator.Reading
import ExactFactorial.Proofs.Session.Hearing

namespace ExactFactorial
namespace Session

/-!
# What a refused line is told

A line that is no number is refused with its trimmed text and with one flaw.  The flaw is the one
that shows first when the text is read from the left, and the answer is made of these two and of
nothing else.
-/

/-- A text that is no number is refused for its leftmost fault.  The refusal keeps the text without
blanks at its ends, the message names both, and the flaw can be asked for. -/
theorem leftmost_fault_reported (text : String) (refusal : Refusal)
    (rejected : readNumber text = .error refusal) :
    ∃ flaw : Numeral.Flaw,
      refusal = .notInteger (Text.trim text) flaw ∧
      (∀ c, (Text.trim text).toList.head? = some c ∨ (Text.trim text).toList.getLast? = some c →
        Text.isBlank c = false) ∧
      flaw.Explains (Text.trim text).toList ∧
      refusal.message = "`" ++ Text.trim text ++ "` is not an integer: " ++ flaw.message ∧
      refusal.flaw? = some flaw ∧
      ∀ session : Session, session.judge text = .refused refusal ∧
        session.answerBytes text = Text.Utf8.encode (refusal.message ++ "\n") := by
  rcases (readNumber_eq_error_iff text refusal).mp rejected with ⟨flaw, explains, rfl⟩
  refine ⟨flaw, rfl, ?_, explains, rfl, rfl, ?_⟩
  · intro c atEnd
    rw [Text.trim, String.toList_ofList] at atEnd
    exact Text.isBlank_end_trimmed atEnd
  · intro session
    have judged := session.judge_of_unread rejected
    refine ⟨judged, ?_⟩
    rw [answerBytes_eq, judged]
    rfl

/-- The magnitude is too large one character before the letter, and the letter is not looked at. -/
theorem magnitude_faulted_before_letter :
    readNumber "\u00a0-9223372036854775809x\n" =
      .error (.notInteger "-9223372036854775809x" .tooSmall) ∧
    Numeral.Flaw.tooSmall.Explains "-9223372036854775809x".toList ∧
    ∀ session : Session, session.answerBytes "\u00a0-9223372036854775809x\n" =
      Text.Utf8.encode
        "`-9223372036854775809x` is not an integer: number too small to fit in target type\n" := by
  have rejected : readNumber "\u00a0-9223372036854775809x\n" =
      .error (.notInteger "-9223372036854775809x" .tooSmall) := by decide
  rcases leftmost_fault_reported _ _ rejected with ⟨flaw, refused, _, explains, _, _, printed⟩
  rcases Refusal.notInteger.inj refused with ⟨text, rfl⟩
  rw [← text] at explains
  exact ⟨rejected, explains, fun session => (printed session).2⟩

end Session
end ExactFactorial
