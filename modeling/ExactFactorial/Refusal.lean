import ExactFactorial.Numeral

namespace ExactFactorial

/-!
# Refused arguments

A refusal records why no factorial was computed, with the data that its message needs.
-/

/-- Why an argument was refused. -/
inductive Refusal where
  | negative (n : Int)
  /-- The trimmed text and what is wrong with it. -/
  | notInteger (input : String) (flaw : Numeral.Flaw)
  | aboveLimit (n limit : Nat)
  deriving Repr, DecidableEq

namespace Refusal

/-- The line shown to the user.  A negative number is not repeated; a text is, as it was given. -/
def message : Refusal → String
  | .negative _ => "Factorial is only defined for non-negative integers."
  | .notInteger input flaw => "`" ++ input ++ "` is not an integer: " ++ flaw.message
  | .aboveLimit n limit => toString n ++ "! is above the configured limit of " ++ toString limit

/-- The flaw of the numeral behind the refusal, where there is one. -/
def flaw? : Refusal → Option Numeral.Flaw
  | .notInteger _ flaw => some flaw
  | .negative _ | .aboveLimit _ _ => none

end Refusal
end ExactFactorial
