import ExactFactorial.Proofs.Calculator.Reading
import Mathlib.Data.Nat.Factorial.Basic

namespace ExactFactorial

/-!
# What a calculator answers

The product that is multiplied up from the left is the factorial, so a value is exact however large
it is.  Which of the three answers an argument gets is settled by its sign first and by the ceiling
after that.  The ceiling may lie beyond every argument; it is compared as a number and not as a
machine word.
-/

/-- One more factor. -/
theorem product_succ (n : Nat) : product (n + 2) = product (n + 1) * (n + 2) := by
  have factors : List.range' 2 (n + 1) = List.range' 2 n ++ [n + 2] := by
    rw [List.range'_1_concat, Nat.add_comm 2 n]
  simp only [product, Nat.add_succ_sub_one, factors, List.foldl_append]
  rfl

theorem product_eq_factorial (n : Nat) : product n = n.factorial := by
  induction n with
  | zero => rfl
  | succ n inductionHypothesis =>
      cases n with
      | zero => rfl
      | succ n =>
          calc
            product (n + 2) = product (n + 1) * (n + 2) := product_succ n
            _ = (n + 2) * (n + 1).factorial := by rw [inductionHypothesis, Nat.mul_comm]
            _ = (n + 2).factorial := (Nat.factorial_succ (n + 1)).symm

namespace Calculator

variable {calculator : Calculator} {n : Int}

theorem compute_of_negative (negative : n < 0) : calculator.compute n = .error (.negative n) :=
  if_pos negative

/-- An argument above the ceiling is refused with both numbers. -/
theorem compute_of_above {limit : Nat} (nonneg : 0 ≤ n) (given : calculator.ceiling = some limit)
    (above : (limit : Int) < n) :
    calculator.compute n = .error (.aboveLimit n.toNat limit) := by
  have exceeds : limit < n.toNat := by omega
  rw [compute, if_neg (Int.not_lt.mpr nonneg), given]
  exact if_pos exceeds

/-- Every other argument gets its factorial. -/
theorem compute_of_within (nonneg : 0 ≤ n)
    (within : ∀ limit, calculator.ceiling = some limit → n ≤ limit) :
    calculator.compute n = .ok n.toNat.factorial := by
  rw [compute, if_neg (Int.not_lt.mpr nonneg), ← product_eq_factorial]
  cases given : calculator.ceiling with
  | none => rfl
  | some limit =>
      have bound := within limit given
      exact if_neg (by omega)

/-- The answer that an argument gets, with what has to hold for it. -/
inductive Answers (calculator : Calculator) (n : Int) : Except Refusal Nat → Prop
  | negative (below : n < 0) : Answers calculator n (.error (.negative n))
  | above {limit : Nat} (nonneg : 0 ≤ n) (given : calculator.ceiling = some limit)
      (above : (limit : Int) < n) : Answers calculator n (.error (.aboveLimit n.toNat limit))
  | within (nonneg : 0 ≤ n) (within : ∀ limit : Nat, calculator.ceiling = some limit → n ≤ limit) :
      Answers calculator n (.ok n.toNat.factorial)

/-- There is no fourth answer. -/
theorem answers_compute (calculator : Calculator) (n : Int) :
    calculator.Answers n (calculator.compute n) := by
  by_cases negative : n < 0
  · rw [compute_of_negative negative]
    exact .negative negative
  · have nonneg : 0 ≤ n := Int.not_lt.mp negative
    by_cases within : ∀ limit : Nat, calculator.ceiling = some limit → n ≤ limit
    · rw [compute_of_within nonneg within]
      exact .within nonneg within
    · simp only [Classical.not_forall, Int.not_le] at within
      rcases within with ⟨limit, given, above⟩
      rw [compute_of_above nonneg given above]
      exact .above nonneg given above

end Calculator

theorem Calculator.computeText_of_read (calculator : Calculator) {text : String} {n : Int}
    (read : readNumber text = .ok n) :
    calculator.computeText text = (calculator.compute n).map fun value => (n, value) := by
  rw [computeText, read]
  change (calculator.compute n).bind (fun value => .ok (n, value)) = _
  cases calculator.compute n <;> rfl

theorem Calculator.computeText_toString (calculator : Calculator) (n : Int64) :
    calculator.computeText (toString n.toInt) =
      (calculator.compute n.toInt).map fun value => (n.toInt, value) :=
  calculator.computeText_of_read (readNumber_toString n)

end ExactFactorial
