import ExactFactorial.Proofs.Session.OneLine

namespace ExactFactorial

open Channel
open Text.Utf8 (encode)

/-!
# What an answer gives away

A refused text is repeated as it was given, so that it may hold the words of any other answer.  It
is told apart from them all the same.  What an answer is about shows at its start, before any text
from the line: a backquote opens a text, a digit is the first of a number, and behind a number a few
characters tell a value from a ceiling.  The flaw of a text stands at the end, behind anything that
the text may hold.  No wording of a flaw is the end of another, so that the flaw is known from there
and the text is what remains.  Only the number behind a minus sign is not told.
-/

/-! ## Numbers at the start -/

/-- The digits with which an answer starts. -/
def leadingDigits (chars : List Char) : List Char :=
  chars.takeWhile Char.isDigit

theorem leadingDigits_of_number (n : Nat) (rest : List Char) :
    leadingDigits (Nat.toDigits 10 n ++ '!' :: rest) = Nat.toDigits 10 n := by
  have digits := (Numeral.spells_toDigits n).allDigits
  rw [leadingDigits, List.takeWhile_append_of_pos digits, List.takeWhile_cons]
  simp

/-- A number in front of an exclamation mark is known. -/
theorem number_of_start {m n : Nat} {rest later : List Char}
    (same : Nat.toDigits 10 m ++ '!' :: rest = Nat.toDigits 10 n ++ '!' :: later) : m = n := by
  apply Numeral.toDigits_injective
  calc
    Nat.toDigits 10 m = leadingDigits (Nat.toDigits 10 m ++ '!' :: rest) :=
      (leadingDigits_of_number m rest).symm
    _ = leadingDigits (Nat.toDigits 10 n ++ '!' :: later) := by rw [same]
    _ = Nat.toDigits 10 n := leadingDigits_of_number n later

/-! ## Flaws at the end -/

/-- No wording of a flaw is the end of another. -/
theorem Numeral.Flaw.eq_of_message_suffix {flaw other : Flaw}
    (ends : flaw.message.toList <:+ other.message.toList) : flaw = other := by
  revert ends
  cases flaw <;> cases other <;> decide

theorem Refusal.toList_message_notInteger (input : String) (flaw : Numeral.Flaw) :
    (notInteger input flaw).message.toList =
      '`' :: (input.toList ++ ("` is not an integer: ".toList ++ flaw.message.toList)) := by
  rw [message, String.append_assoc, String.append_assoc, String.toList_append,
    String.toList_append, String.toList_append]
  rfl

/-- A text and its flaw are known from the refusal, whatever the text holds. -/
theorem Refusal.notInteger_of_message {input other : String} {flaw otherFlaw : Numeral.Flaw}
    (same : (notInteger input flaw).message = (notInteger other otherFlaw).message) :
    input = other ∧ flaw = otherFlaw := by
  have chars := congrArg String.toList same
  rw [toList_message_notInteger, toList_message_notInteger] at chars
  have body := (List.cons.inj chars).2
  -- Both wordings stand at the end of one text, so that one of them ends with the other.
  have ends : flaw.message.toList <:+
      other.toList ++ ("` is not an integer: ".toList ++ otherFlaw.message.toList) := by
    rw [← body, ← List.append_assoc]
    exact List.suffix_append _ _
  have otherEnds : otherFlaw.message.toList <:+
      other.toList ++ ("` is not an integer: ".toList ++ otherFlaw.message.toList) := by
    rw [← List.append_assoc]
    exact List.suffix_append _ _
  have sameFlaw : flaw = otherFlaw := by
    rcases List.suffix_or_suffix_of_suffix ends otherEnds with shorter | longer
    · exact Numeral.Flaw.eq_of_message_suffix shorter
    · exact (Numeral.Flaw.eq_of_message_suffix longer).symm
  subst sameFlaw
  exact ⟨String.toList_inj.mp (List.append_cancel_right body), rfl⟩

/-! ## The words of an answer about a number -/

theorem Refusal.toList_message_aboveLimit (n limit : Nat) :
    (aboveLimit n limit).message.toList =
      Nat.toDigits 10 n ++
        '!' :: (" is above the configured limit of ".toList ++ Nat.toDigits 10 limit) := by
  rw [message, String.append_assoc, String.toList_append, String.toList_append,
    Numeral.toList_toString_nat, Numeral.toList_toString_nat]
  rfl

theorem Refusal.aboveLimit_of_message {m n limit other : Nat}
    (same : (aboveLimit m limit).message = (aboveLimit n other).message) :
    m = n ∧ limit = other := by
  have chars := congrArg String.toList same
  rw [toList_message_aboveLimit, toList_message_aboveLimit] at chars
  have sameNumber := number_of_start chars
  subst sameNumber
  have behind := (List.cons.inj (List.append_cancel_left chars)).2
  exact ⟨rfl, Numeral.toDigits_injective (List.append_cancel_left behind)⟩

/-- Behind the number, an answer with a value does not go on as a refusal does. -/
theorem Session.toList_reply_computed (session : Session) {n : Int} (nonneg : 0 ≤ n)
    (value : Nat) :
    ∃ next rest, next ≠ 'i' ∧
      (session.reply (.computed n value)).toList =
        Nat.toDigits 10 n.toNat ++ '!' :: ' ' :: next :: rest := by
  have number : (toString n).toList = Nat.toDigits 10 n.toNat := by
    rw [Numeral.toString_of_nonneg nonneg, Numeral.toList_toString_nat]
  rw [reply]
  split
  · refine ⟨'h', "as ".toList ++ (toString (toString value).length ++ " digits").toList,
      by decide, ?_⟩
    rw [String.append_assoc, String.append_assoc, String.toList_append, String.toList_append,
      number]
    rfl
  · refine ⟨'=', ' ' :: (toString value).toList, by decide, ?_⟩
    rw [String.append_assoc, String.toList_append, String.toList_append, number]
    rfl

theorem Session.number_of_reply (session : Session) {m n : Int} {value other : Nat}
    (nonneg : 0 ≤ m) (otherNonneg : 0 ≤ n)
    (same : session.reply (.computed m value) = session.reply (.computed n other)) : m = n := by
  rcases session.toList_reply_computed nonneg value with ⟨_, _, _, told⟩
  rcases session.toList_reply_computed otherNonneg other with ⟨_, _, _, otherTold⟩
  rw [same, otherTold] at told
  have sameNumber := number_of_start told
  omega

/-! ## What an answer is about -/

/-- What an answer is about. -/
inductive Matter where
  | value
  | ceiling
  | text
  | sign
  deriving Repr, DecidableEq

namespace Matter

/-- What an answer is about, by how it starts. -/
def ofChars (chars : List Char) : Matter :=
  if chars.head? = some '`' then .text
  else if chars.head? = some 'F' then .sign
  else if (chars.dropWhile Char.isDigit).take 3 = ['!', ' ', 'i'] then .ceiling
  else .value

/-- What a refusal is about. -/
def ofRefusal : Refusal → Matter
  | .negative _ => .sign
  | .notInteger _ _ => .text
  | .aboveLimit _ _ => .ceiling

/-- Behind a number the next characters decide. -/
theorem ofChars_of_number (n : Nat) (rest : List Char) :
    ofChars (Nat.toDigits 10 n ++ '!' :: rest) =
      if ('!' :: rest).take 3 = ['!', ' ', 'i'] then .ceiling else .value := by
  have digits := (Numeral.spells_toDigits n).allDigits
  have starts : ∀ c, (Nat.toDigits 10 n ++ '!' :: rest).head? = some c → c.isDigit = true := by
    intro c first
    rw [List.head?_append, Option.or_eq_some_iff] at first
    rcases first with digit | ⟨nothing, _⟩
    · exact digits c (List.mem_of_head? digit)
    · exact absurd (List.head?_eq_none_iff.mp nothing) Nat.toDigits_ne_nil
  have behind : (Nat.toDigits 10 n ++ '!' :: rest).dropWhile Char.isDigit = '!' :: rest := by
    rw [List.dropWhile_append_of_pos digits, List.dropWhile_cons]
    simp
  have noText : (Nat.toDigits 10 n ++ '!' :: rest).head? ≠ some '`' :=
    fun first => absurd (starts _ first) (by decide)
  have noSign : (Nat.toDigits 10 n ++ '!' :: rest).head? ≠ some 'F' :=
    fun first => absurd (starts _ first) (by decide)
  rw [ofChars, if_neg noText, if_neg noSign, behind]

theorem ofChars_message (refusal : Refusal) :
    ofChars refusal.message.toList = ofRefusal refusal := by
  cases refusal with
  | negative n =>
      rw [Refusal.message, ofRefusal]
      decide
  | notInteger input flaw =>
      rw [Refusal.toList_message_notInteger]
      rfl
  | aboveLimit n limit =>
      rw [Refusal.toList_message_aboveLimit, ofChars_of_number]
      rfl

/-- An answer with a value is about a value. -/
theorem ofChars_reply (session : Session) {n : Int} (nonneg : 0 ≤ n) (value : Nat) :
    ofChars (session.reply (.computed n value)).toList = .value := by
  rcases session.toList_reply_computed nonneg value with ⟨next, rest, different, told⟩
  rw [told, ofChars_of_number, if_neg]
  intro same
  apply different
  exact (List.cons.inj (List.cons.inj (List.cons.inj same).2).2).1

end Matter

/-- No refusal is told like a value. -/
theorem Session.reply_ne_message (session : Session) {n : Int} (nonneg : 0 ≤ n) (value : Nat)
    (refusal : Refusal) : session.reply (.computed n value) ≠ refusal.message := by
  intro same
  have alike := Matter.ofChars_reply session nonneg value
  rw [same, Matter.ofChars_message] at alike
  cases refusal <;> cases alike

/-! ## Recognising the verdict -/

/-- The message identifies the refusal, up to a number below zero. -/
theorem Refusal.eq_of_message {first second : Refusal} (same : first.message = second.message) :
    first = second ∨ ∃ m n, first = .negative m ∧ second = .negative n := by
  have alike : Matter.ofRefusal first = Matter.ofRefusal second := by
    rw [← Matter.ofChars_message, ← Matter.ofChars_message, same]
  cases first with
  | negative m =>
      cases second with
      | negative n => exact .inr ⟨m, n, rfl, rfl⟩
      | notInteger other otherFlaw => cases alike
      | aboveLimit n limit => cases alike
  | notInteger input flaw =>
      cases second with
      | negative n => cases alike
      | notInteger other otherFlaw =>
          rcases notInteger_of_message same with ⟨rfl, rfl⟩
          exact .inl rfl
      | aboveLimit n limit => cases alike
  | aboveLimit m limit =>
      cases second with
      | negative n => cases alike
      | notInteger other otherFlaw => cases alike
      | aboveLimit n other =>
          rcases aboveLimit_of_message same with ⟨rfl, rfl⟩
          exact .inl rfl

namespace Session

/-- The answer identifies the verdict, up to a number below zero. -/
theorem judge_of_reply (session : Session) {left right : String}
    (same : session.reply (session.judge left) = session.reply (session.judge right)) :
    session.judge left = session.judge right ∨
      ∃ m n, session.judge left = .refused (.negative m) ∧
        session.judge right = .refused (.negative n) := by
  cases first : session.judge left with
  | computed m value =>
      rcases exact_of_computed first with ⟨nonneg, rfl⟩
      cases second : session.judge right with
      | computed n other =>
          rcases exact_of_computed second with ⟨otherNonneg, rfl⟩
          rw [first, second] at same
          rw [session.number_of_reply nonneg otherNonneg same]
          exact .inl rfl
      | refused refusal =>
          rw [first, second] at same
          exact absurd same (session.reply_ne_message nonneg _ refusal)
  | refused refusal =>
      cases second : session.judge right with
      | computed n value =>
          rw [first, second] at same
          exact absurd same.symm
            (session.reply_ne_message (exact_of_computed second).1 value refusal)
      | refused other =>
          rw [first, second] at same
          rcases Refusal.eq_of_message same with rfl | ⟨m, n, rfl, rfl⟩
          · exact .inl rfl
          · exact .inr ⟨m, n, rfl, rfl⟩

/-- The bytes of an answer tell its words. -/
theorem reply_of_bytes (session : Session) {left right : String}
    (same : session.answerBytes left = session.answerBytes right) :
    session.reply (session.judge left) = session.reply (session.judge right) := by
  rw [answerBytes_eq, answerBytes_eq] at same
  exact (String.append_left_inj "\n").mp (Text.Utf8.encode_injective same)

/-- Who sees an answer knows the verdict, up to a number below zero.  Lines with the same answer have
the same verdict or are both refused for their sign.  A refused line never gets the answer of a line
with a value.  And the message about a text that is no number tells the text and the flaw. -/
theorem answer_identifies_verdict :
    (∀ (session : Session) (left right : String) (sink other : Sink) (written : Bytes),
      sink.rules.Reliable → other.rules.Reliable →
      (session.answer left sink).sink.accepted = sink.accepted ++ written →
      (session.answer right other).sink.accepted = other.accepted ++ written →
      ∃ first second : Verdict,
        (session.answer left sink).result = .ok first ∧
        (session.answer right other).result = .ok second ∧
        (first = second ∨
          ∃ m n, first = .refused (.negative m) ∧ second = .refused (.negative n)) ∧
        ∀ refusal n value, first = .refused refusal → second ≠ .computed n value) ∧
    (∀ (input other : String) (flaw otherFlaw : Numeral.Flaw),
      (Refusal.notInteger input flaw).message = (Refusal.notInteger other otherFlaw).message →
      input = other ∧ flaw = otherFlaw) := by
  refine ⟨?_, fun _ _ _ _ => Refusal.notInteger_of_message⟩
  intro session left right sink other written reliable otherReliable accepted otherAccepted
  have first := answered_answer session left sink reliable
  have second := answered_answer session right other otherReliable
  have bytes := List.append_cancel_left (first.accepted.symm.trans accepted)
  have otherBytes := List.append_cancel_left (second.accepted.symm.trans otherAccepted)
  have alike := session.judge_of_reply (session.reply_of_bytes (bytes.trans otherBytes.symm))
  refine ⟨_, _, first.result, second.result, alike, ?_⟩
  intro refusal n value refused computed
  rw [refused, computed] at alike
  rcases alike with same | ⟨_, _, _, negative⟩
  · cases same
  · cases negative

/-- A text that goes on like the message about it. -/
def imitation : String :=
  "5` is not an integer: number too large to fit in target type"

/-- Two numbers below zero are told alike.  A text that imitates its own refusal is known from it,
with the flaw that it has and not the one it speaks of. -/
theorem signs_alike_imitation_told :
    (∃ first second : Verdict,
      (answer {} "-3" {}).result = .ok first ∧ (answer {} "-4" {}).result = .ok second ∧
      (first = second ∨
        ∃ m n, first = .refused (.negative m) ∧ second = .refused (.negative n)) ∧
      ∀ refusal n value, first = .refused refusal → second ≠ .computed n value) ∧
    ∀ (other : String) (flaw : Numeral.Flaw),
      (Refusal.notInteger imitation .invalidDigit).message =
        (Refusal.notInteger other flaw).message →
      imitation = other ∧ Numeral.Flaw.invalidDigit = flaw := by
  have same : (answer {} "-4" {}).sink.accepted = (answer {} "-3" {}).sink.accepted := by decide
  exact ⟨answer_identifies_verdict.1 {} "-3" "-4" {} {} _ ⟨rfl, rfl⟩ ⟨rfl, rfl⟩ rfl same,
    fun other flaw => answer_identifies_verdict.2 imitation other .invalidDigit flaw⟩

end Session
end ExactFactorial
