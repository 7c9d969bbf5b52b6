import ExactFactorial.Proofs.Calculator.Exact
import ExactFactorial.Session
import Mathlib.Algebra.Group.Nat.Defs

namespace ExactFactorial
namespace Calculator

/-!
# Every argument and its trace

An argument is below zero, above the ceiling, or neither.  These conditions leave no argument out
and exclude each other, so that the answer tells which of them holds.  Only the last one leaves a
trace in the log, and the size that is logged is the number of binary digits of the value.
-/

variable {calculator : Calculator} {n : Int}

/-! ## The condition behind an answer -/

theorem compute_eq_negative_iff :
    calculator.compute n = .error (.negative n) ↔ n < 0 := by
  constructor
  · intro refused
    have answers := calculator.answers_compute n
    rw [refused] at answers
    cases answers with
    | negative below => exact below
  · exact compute_of_negative

theorem compute_eq_aboveLimit_iff {argument limit : Nat} :
    calculator.compute n = .error (.aboveLimit argument limit) ↔
      n = argument ∧ calculator.ceiling = some limit ∧ limit < argument := by
  constructor
  · intro refused
    have answers := calculator.answers_compute n
    rw [refused] at answers
    cases answers with
    | above nonneg given above => exact ⟨by omega, given, by omega⟩
  · rintro ⟨rfl, given, above⟩
    rw [compute_of_above (Int.natCast_nonneg argument) given (Int.ofNat_lt.mpr above)]
    rfl

theorem compute_eq_ok_iff {value : Nat} :
    calculator.compute n = .ok value ↔
      0 ≤ n ∧ (∀ limit : Nat, calculator.ceiling = some limit → n ≤ limit) ∧
        value = n.toNat.factorial := by
  constructor
  · intro computed
    have answers := calculator.answers_compute n
    rw [computed] at answers
    cases answers with
    | within nonneg within => exact ⟨nonneg, within, rfl⟩
  · rintro ⟨nonneg, within, rfl⟩
    exact compute_of_within nonneg within

/-- Without a ceiling every argument from one on is a factor of its value. -/
theorem factorial_recurrence (positive : 1 ≤ n) :
    ∃ before, factorial (n - 1) = .ok before ∧ factorial n = .ok (n.toNat * before) := by
  have unlimited : ∀ (m : Int) (limit : Nat), ({} : Calculator).ceiling = some limit → m ≤ limit :=
    fun _ _ given => nomatch given
  have factor : n.toNat.factorial = n.toNat * (n - 1).toNat.factorial := by
    have next : n.toNat = (n - 1).toNat + 1 := by omega
    rw [next, Nat.factorial_succ]
  refine ⟨(n - 1).toNat.factorial, compute_of_within (by omega) (unlimited _), ?_⟩
  rw [← factor]
  exact compute_of_within (by omega) (unlimited _)

/-! ## The trace -/

/-- The record that is made before anything is multiplied. -/
def startRecord (n : Int) : Log.Record :=
  ⟨.debug, .calculator, "computing " ++ toString n ++ "!"⟩

/-- The record about the size of a value. -/
def sizeRecord (n : Int) (bits : Nat) : Log.Record :=
  ⟨.debug, .calculator, toString n ++ "! has " ++ toString bits ++ " bits"⟩

/-- The number of binary digits lies between two powers of two. -/
theorem two_pow_bitLength {value : Nat} (positive : 0 < value) :
    2 ^ (bitLength value - 1) ≤ value ∧ value < 2 ^ bitLength value :=
  ⟨Nat.log2_self_le positive.ne', Nat.lt_log2_self⟩

theorem log_of_error {refusal : Refusal} (refused : calculator.compute n = .error refusal) :
    calculator.log n = [] := by
  rw [log, refused]

theorem log_of_ok {value : Nat} (computed : calculator.compute n = .ok value) :
    calculator.log n = records n value := by
  rw [log, computed]

theorem records_of_lt_two (value : Nat) (small : n < 2) : records n value = [startRecord n] := by
  rw [records, if_pos small]
  rfl

theorem records_of_two_le (value : Nat) (large : 2 ≤ n) :
    records n value = [startRecord n, sizeRecord n (bitLength value)] := by
  rw [records, if_neg (Int.not_lt.mpr large)]
  rfl

theorem eq_of_mem_records {value : Nat} {record : Log.Record} (member : record ∈ records n value) :
    record = startRecord n ∨ record = sizeRecord n (bitLength value) := by
  by_cases small : n < 2
  · rw [records_of_lt_two value small, List.mem_singleton] at member
    exact .inl member
  · rw [records_of_two_le value (Int.not_lt.mp small), List.mem_cons,
      List.mem_singleton] at member
    exact member

theorem origin_of_mem_records {value : Nat} {record : Log.Record}
    (member : record ∈ records n value) : record.origin = .calculator := by
  rcases eq_of_mem_records member with rfl | rfl <;> rfl

/-- The part of the log of a session that comes from its calculator. -/
theorem log_of_answer (session : Session) {line : String} (sink : Channel.Sink)
    (read : readNumber line = .ok n) :
    (session.answer line sink).log.filter (fun record => record.origin = .calculator) =
      session.calculator.log n := by
  have text := session.calculator.computeText_of_read read
  simp only [Session.answer, Session.judge, text, log]
  cases session.calculator.compute n with
  | ok value =>
      apply List.filter_eq_self.mpr
      intro record member
      exact decide_eq_true (origin_of_mem_records member)
  | error refusal => rfl

/-- Every argument is classified by its sign first and by the ceiling after that, and gets its exact
factorial if neither objects.  A refusal leaves no trace.  A value leaves one record, or two if
something was multiplied, and these are what a session shows of the calculator.  Without a ceiling
every argument from one on is a factor of its value. -/
theorem every_argument_classified (calculator : Calculator) (n : Int) :
    (calculator.compute n = .error (.negative n) ↔ n < 0) ∧
    (∀ argument limit : Nat, calculator.compute n = .error (.aboveLimit argument limit) ↔
      n = argument ∧ calculator.ceiling = some limit ∧ limit < argument) ∧
    (∀ value : Nat, calculator.compute n = .ok value ↔
      0 ≤ n ∧ (∀ limit : Nat, calculator.ceiling = some limit → n ≤ limit) ∧
        value = n.toNat.factorial) ∧
    (∀ refusal, calculator.compute n = .error refusal → calculator.log n = []) ∧
    (∀ value : Nat, calculator.compute n = .ok value →
      (n < 2 → calculator.log n = [startRecord n]) ∧
      (2 ≤ n → ∃ bits, calculator.log n = [startRecord n, sizeRecord n bits] ∧
        2 ^ (bits - 1) ≤ value ∧ value < 2 ^ bits)) ∧
    (∀ (session : Session) (line : String) (sink : Channel.Sink),
      session.calculator = calculator → readNumber line = .ok n →
      (session.answer line sink).log.filter (fun record => record.origin = .calculator) =
        calculator.log n) ∧
    factorial n = Calculator.compute {} n ∧
    (1 ≤ n → ∃ before,
      factorial (n - 1) = .ok before ∧ factorial n = .ok (n.toNat * before)) := by
  refine ⟨compute_eq_negative_iff, fun _ _ => compute_eq_aboveLimit_iff, fun _ => compute_eq_ok_iff,
    fun _ => log_of_error, ?_, ?_, rfl, factorial_recurrence⟩
  · intro value computed
    rw [log_of_ok computed]
    refine ⟨records_of_lt_two value, fun large => ⟨_, records_of_two_le value large, ?_⟩⟩
    have exact := (compute_eq_ok_iff.mp computed).2.2
    apply two_pow_bitLength
    rw [exact]
    exact Nat.factorial_pos _
  · rintro session line sink rfl read
    exact log_of_answer session sink read

/-- Below a ceiling of ten, above it, and below zero, where the ceiling is not looked at. -/
theorem ceiling_of_ten_classified :
    compute ⟨some 10⟩ 10 = .ok 3628800 ∧
    (∃ bits, log ⟨some 10⟩ 10 = [startRecord 10, sizeRecord 10 bits] ∧
      2 ^ (bits - 1) ≤ 3628800 ∧ 3628800 < 2 ^ bits) ∧
    compute ⟨some 10⟩ 11 = .error (.aboveLimit 11 10) ∧ log ⟨some 10⟩ 11 = [] ∧
    compute ⟨some 10⟩ (-11) = .error (.negative (-11)) := by
  have within := every_argument_classified ⟨some 10⟩ 10
  have above := every_argument_classified ⟨some 10⟩ 11
  have negative := every_argument_classified ⟨some 10⟩ (-11)
  have computed : compute ⟨some 10⟩ 10 = .ok 3628800 :=
    (within.2.2.1 3628800).mpr ⟨by decide, by decide, by decide⟩
  have refused : compute ⟨some 10⟩ 11 = .error (.aboveLimit 11 10) :=
    (above.2.1 11 10).mpr ⟨rfl, rfl, by decide⟩
  exact ⟨computed, (within.2.2.2.2.1 _ computed).2 (by decide), refused, above.2.2.2.1 _ refused,
    negative.1.mpr (by decide)⟩

end Calculator
end ExactFactorial
