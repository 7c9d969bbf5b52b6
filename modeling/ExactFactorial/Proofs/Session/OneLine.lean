import ExactFactorial.Proofs.Calculator.Exact
import ExactFactorial.Proofs.Session.Hearing
import ExactFactorial.Proofs.Text.Boundaries

namespace ExactFactorial
namespace Session

open Channel
open Text.Utf8 (encode lossy)

/-!
# One line in, one line out

A refusal repeats the text that was refused, as it was given.  That the answer is one line all the
same is a matter of what can be in that text.  A line that was read has its line end as its last
byte or not at all.  A character of several bytes that is cut short before the line end is marked as
malformed, and takes no part of the line end with it.  So the line end is decoded to itself, stands
last, and is trimmed away.
-/

/-! ## The text that a line is judged by -/

theorem toList_lossy_lineEnd (bytes : Bytes) :
    (lossy (bytes ++ [lineEnd])).toList = (lossy bytes).toList ++ ['\n'] :=
  Text.Utf8.toList_lossy_append_single bytes [] (by decide)

theorem lineEnd_not_mem_lossy {bytes : Bytes} (unended : lineEnd ∉ bytes) :
    '\n' ∉ (lossy bytes).toList := by
  intro member
  apply unended
  exact Text.Utf8.mem_of_mem_lossy (c := '\n') (by decide) (by decide) member

/-- Whatever its bytes are, nothing of a line end is left when a line is decoded and trimmed. -/
theorem lineEnd_not_mem_trim_lossy {stream rest : List Signal} {line : Bytes}
    {fault : Option Fault} (read : Line stream line fault rest) :
    '\n' ∉ (Text.trim (lossy line)).toList := by
  rw [Text.trim, String.toList_ofList]
  have unended : ∀ bytes : Bytes, lineEnd ∉ bytes → '\n' ∉ Text.trimmed (lossy bytes).toList := by
    intro bytes absent member
    exact lineEnd_not_mem_lossy absent (Text.mem_of_mem_trimmed member)
  cases read with
  | ended bytes rest absent =>
      -- The line end is decoded apart from what may be a broken character before it.
      have blank : Text.AllBlank ['\n'] := Text.allBlank_singleton (by decide)
      have same := Text.trimmed_between (lossy bytes).toList Text.allBlank_nil blank
      rw [List.nil_append] at same
      rw [toList_lossy_lineEnd, same]
      exact unended bytes absent
  | exhausted bytes absent => exact unended line absent
  | paused bytes rest absent => exact unended line absent
  | failed bytes fault rest absent => exact unended line absent

/-! ## Answers without a line end -/

theorem lineEnd_not_mem_flaw (flaw : Numeral.Flaw) : '\n' ∉ flaw.message.toList := by
  cases flaw <;> decide

/-- A refusal repeats a text, and is told in one line if that text is one. -/
theorem lineEnd_not_mem_notInteger {input : String} (flaw : Numeral.Flaw)
    (oneLine : '\n' ∉ input.toList) :
    '\n' ∉ (Refusal.notInteger input flaw).message.toList := by
  simp only [Refusal.message, String.toList_append, List.mem_append, oneLine,
    lineEnd_not_mem_flaw flaw]
  decide

theorem lineEnd_not_mem_aboveLimit (n limit : Nat) :
    '\n' ∉ (Refusal.aboveLimit n limit).message.toList := by
  simp only [Refusal.message, String.toList_append, List.mem_append,
    Numeral.lineEnd_not_mem_toString_nat]
  decide

theorem lineEnd_not_mem_reply_computed (session : Session) (n : Int) (value : Nat) :
    '\n' ∉ (session.reply (.computed n value)).toList := by
  rw [reply]
  split <;>
    simp only [String.toList_append, List.mem_append, Numeral.lineEnd_not_mem_toString_nat,
      Numeral.lineEnd_not_mem_toString_int] <;>
    decide

/-! ## Verdicts -/

/-- All that can become of a line: it is refused, with its trimmed text where it is no numeral, or
it is answered with an exact value. -/
theorem judge_cases (session : Session) (line : String) :
    (∃ flaw, session.judge line = .refused (.notInteger (Text.trim line) flaw)) ∨
      (∃ n, session.judge line = .refused (.negative n)) ∨
      (∃ n limit, session.judge line = .refused (.aboveLimit n limit)) ∨
      ∃ n, 0 ≤ n ∧ session.judge line = .computed n n.toNat.factorial := by
  cases read : Numeral.readSigned (Text.trim line).toList with
  | error flaw => exact .inl ⟨flaw, judge_of_flaw session read⟩
  | ok n =>
      have found : readNumber line = .ok n := by
        rw [readNumber, read]
        rfl
      rw [judge, session.calculator.computeText_of_read found]
      have answers := session.calculator.answers_compute n
      generalize session.calculator.compute n = answer at answers ⊢
      cases answers with
      | negative _ => exact .inr (.inl ⟨n, rfl⟩)
      | @above limit _ _ _ => exact .inr (.inr (.inl ⟨n.toNat, limit, rfl⟩))
      | within nonneg _ => exact .inr (.inr (.inr ⟨n, nonneg, rfl⟩))

/-- A value that was computed is exact. -/
theorem exact_of_computed {session : Session} {line : String} {n : Int} {value : Nat}
    (computed : session.judge line = .computed n value) :
    0 ≤ n ∧ value = n.toNat.factorial := by
  rcases session.judge_cases line with ⟨flaw, judged⟩ | ⟨m, judged⟩ | ⟨m, limit, judged⟩ |
    ⟨m, nonneg, judged⟩
  · cases computed.symm.trans judged
  · cases computed.symm.trans judged
  · cases computed.symm.trans judged
  · cases computed.symm.trans judged
    exact ⟨nonneg, rfl⟩

/-- A line is answered in one line if its trimmed text is one. -/
theorem lineEnd_not_mem_reply_judge (session : Session) {line : String}
    (oneLine : '\n' ∉ (Text.trim line).toList) :
    '\n' ∉ (session.reply (session.judge line)).toList := by
  rcases session.judge_cases line with ⟨flaw, judged⟩ | ⟨n, judged⟩ | ⟨n, limit, judged⟩ |
    ⟨n, _, judged⟩
  · rw [judged]
    exact lineEnd_not_mem_notInteger flaw oneLine
  · rw [judged, reply, Refusal.message]
    decide
  · rw [judged]
    exact lineEnd_not_mem_aboveLimit n limit
  · rw [judged]
    exact lineEnd_not_mem_reply_computed session n n.toNat.factorial

/-- On a sink without faults every input is answered with one line after the prompt, whatever its
bytes are and however they are cut. -/
theorem one_line_in_one_line_out (session : Session) (source : Source) (sink : Sink)
    (reliable : sink.rules.Reliable)
    (unfailing : ∀ fault, Chunk.fails fault ∈ source.chunks → fault.kind = .interrupted) :
    ∃ (verdict : Verdict) (reply : String),
      (session.ask source sink).1.result = .ok verdict ∧
      (session.ask source sink).1.sink.accepted =
        sink.accepted ++ encode session.prompt ++ (encode reply ++ [lineEnd]) ∧
      lineEnd ∉ encode reply ∧
      (∀ refusal, verdict = .refused refusal → reply = refusal.message) ∧
      (∀ n value, verdict = .computed n value →
        0 ≤ n ∧ value = n.toNat.factorial ∧
        reply =
          if session.digitsOnly then
            toString n ++ "! has " ++ toString (toString value).length ++ " digits"
          else toString n ++ "! = " ++ toString value) := by
  rcases exists_line_of_unfailing unfailing with ⟨line, rest, read⟩
  have answered := answered_ask session reliable read
  have oneLine := lineEnd_not_mem_reply_judge session (lineEnd_not_mem_trim_lossy read)
  refine ⟨session.judge (lossy line), session.reply (session.judge (lossy line)),
    answered.result, ?_, ?_, ?_, ?_⟩
  · have ending : encode "\n" = [lineEnd] := by decide
    rw [answered.accepted, answerBytes_eq, Text.Utf8.encode_append, ending]
    rfl
  · intro member
    exact oneLine (Text.Utf8.mem_of_mem_encode (by decide) member)
  · intro refusal refused
    rw [refused]
    rfl
  · intro n value computed
    rw [computed]
    rcases session.judge_cases (lossy line) with ⟨flaw, judged⟩ | ⟨m, judged⟩ |
      ⟨m, limit, judged⟩ | ⟨m, nonneg, judged⟩
    · cases computed.symm.trans judged
    · cases computed.symm.trans judged
    · cases computed.symm.trans judged
    · cases computed.symm.trans judged
      exact ⟨nonneg, rfl, rfl⟩

/-- A number, a carriage return and a longer character that is cut short by the line end, with an
interruption between its bytes. -/
def cutCharacter : Source :=
  { chunks := [.bytes [0x35, 0x0D, 0xE2], .fails ⟨.interrupted, "try again"⟩,
      .bytes [0x82, lineEnd, 0x35]] }

theorem cut_character_answered_in_one_line :
    ∃ (verdict : Verdict) (reply : String),
      (ask {} cutCharacter {}).1.result = .ok verdict ∧
      (ask {} cutCharacter {}).1.sink.accepted =
        [] ++ encode defaultPrompt ++ (encode reply ++ [lineEnd]) ∧
      lineEnd ∉ encode reply ∧
      (∀ refusal, verdict = .refused refusal → reply = refusal.message) ∧
      (∀ n value, verdict = .computed n value →
        0 ≤ n ∧ value = n.toNat.factorial ∧
        reply =
          if ({} : Session).digitsOnly then
            toString n ++ "! has " ++ toString (toString value).length ++ " digits"
          else toString n ++ "! = " ++ toString value) := by
  apply one_line_in_one_line_out {} cutCharacter {} ⟨rfl, rfl⟩
  intro fault member
  simp only [cutCharacter, List.mem_cons, List.not_mem_nil, reduceCtorEq, false_or,
    or_false] at member
  rw [Chunk.fails.inj member]

end Session
end ExactFactorial
