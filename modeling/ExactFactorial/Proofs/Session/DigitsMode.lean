import ExactFactorial.Proofs.Session.OneLine

namespace ExactFactorial
namespace Session

open Channel
open Text.Utf8 (encode)

/-!
# Digits in place of the value

A session may answer with the number of digits in place of the value.  The verdict is reached and
logged before that choice is looked at, so that it has a part in the words of an answer with a value
and in nothing else.  The number that is named is the length of the decimal text that would have
been shown.  That text has no leading zeros, and so its length is the size of the value in powers of
ten.
-/

/-- The session with this choice of how to answer. -/
def showing (session : Session) (digitsOnly : Bool) : Session :=
  { session with digitsOnly }

/-- The decimal text of a value is a numeral for it, without leading zeros, and is as long as the
value is large. -/
structure WrittenOut (digits : String) (value : Nat) : Prop where
  spells : Numeral.Spells digits.toList value
  leading : digits.toList.head? ≠ some '0'
  least : 10 ^ (digits.length - 1) ≤ value
  most : value < 10 ^ digits.length

theorem writtenOut_toString {value : Nat} (positive : 0 < value) :
    WrittenOut (toString value) value := by
  have length : (toString value).length = (Nat.toDigits 10 value).length := by
    rw [← String.length_toList, Numeral.toList_toString_nat]
  have bounds := Numeral.ten_pow_length_toDigits positive
  constructor
  · rw [Numeral.toList_toString_nat]
    exact Numeral.spells_toDigits value
  · rw [Numeral.toList_toString_nat]
    exact Numeral.head?_toDigits_ne_zero positive
  · rw [length]
    exact bounds.1
  · rw [length]
    exact bounds.2

/-- How a value will be shown is not looked at when a line is judged. -/
theorem judge_showing (session : Session) (digitsOnly : Bool) (line : String) :
    (session.showing digitsOnly).judge line = session.judge line := by
  have same : (session.showing digitsOnly).calculator = session.calculator := rfl
  rw [judge, judge, same]

theorem answered_showing (session : Session) (digitsOnly : Bool) (line : String) (sink : Sink)
    (reliable : sink.rules.Reliable) :
    ((session.showing digitsOnly).answer line sink).result = .ok (session.judge line) ∧
    ((session.showing digitsOnly).answer line sink).log = records line (session.judge line) ∧
    ((session.showing digitsOnly).answer line sink).sink.accepted =
      sink.accepted ++
        encode ((session.showing digitsOnly).reply (session.judge line) ++ "\n") := by
  have answered := answered_answer (session.showing digitsOnly) line sink reliable
  rw [← judge_showing session digitsOnly line, ← answerBytes_eq]
  exact ⟨answered.result, answered.log, answered.accepted⟩

/-- Whether a session answers with digits or with values, the verdict and the log are the same.  A
refusal is told in the same words.  A value is shown in full or counted, and the count is that of
the digits that would have been shown. -/
theorem digits_only_changes_showing (session : Session) (line : String) (sink other : Sink)
    (reliable : sink.rules.Reliable) (otherReliable : other.rules.Reliable) :
    ∃ (verdict : Verdict) (counted shown : Bytes),
      ((session.showing true).answer line sink).result = .ok verdict ∧
      ((session.showing false).answer line other).result = .ok verdict ∧
      ((session.showing true).answer line sink).log =
        ((session.showing false).answer line other).log ∧
      ((session.showing true).answer line sink).sink.accepted = sink.accepted ++ counted ∧
      ((session.showing false).answer line other).sink.accepted = other.accepted ++ shown ∧
      (∀ refusal, verdict = .refused refusal → counted = shown) ∧
      (∀ n value, verdict = .computed n value →
        0 ≤ n ∧ value = n.toNat.factorial ∧
        ∃ digits : String, WrittenOut digits value ∧
          counted = encode (toString n ++ "! has " ++ toString digits.length ++ " digits" ++ "\n") ∧
          shown = encode (toString n ++ "! = " ++ digits ++ "\n")) := by
  rcases answered_showing session true line sink reliable with ⟨result, log, accepted⟩
  rcases answered_showing session false line other otherReliable with
    ⟨otherResult, otherLog, otherAccepted⟩
  refine ⟨session.judge line, _, _, result, otherResult, log.trans otherLog.symm, accepted,
    otherAccepted, ?_, ?_⟩
  · intro refusal refused
    rw [refused, reply, reply]
  · intro n value computed
    rcases exact_of_computed computed with ⟨nonneg, rfl⟩
    refine ⟨nonneg, rfl, _, writtenOut_toString (Nat.factorial_pos _), ?_, ?_⟩
    · rw [computed, reply, showing, if_pos rfl]
    · rw [computed, reply, showing, if_neg Bool.false_ne_true]

/-- Ten factorial, with its digits counted or shown. -/
theorem ten_counted_or_shown :
    ((showing {} true).answer "10" {}).result = .ok (.computed 10 3628800) ∧
    ∃ (counted shown : Bytes) (digits : String),
      ((showing {} true).answer "10" {}).sink.accepted = [] ++ counted ∧
      ((showing {} false).answer "10" {}).sink.accepted = [] ++ shown ∧
      WrittenOut digits 3628800 ∧
      counted = encode ("10" ++ "! has " ++ toString digits.length ++ " digits" ++ "\n") ∧
      shown = encode ("10" ++ "! = " ++ digits ++ "\n") := by
  have computed : ((showing {} true).answer "10" {}).result = .ok (.computed 10 3628800) := by
    decide
  rcases digits_only_changes_showing {} "10" {} {} ⟨rfl, rfl⟩ ⟨rfl, rfl⟩ with
    ⟨verdict, counted, shown, result, _, _, accepted, otherAccepted, _, values⟩
  have judged : verdict = .computed 10 3628800 := Except.ok.inj (result.symm.trans computed)
  rcases values 10 3628800 judged with ⟨_, _, digits, written, told, toldInFull⟩
  exact ⟨computed, counted, shown, digits, accepted, otherAccepted, written, told, toldInFull⟩

end Session
end ExactFactorial
