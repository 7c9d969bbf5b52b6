import ExactFactorial.Log
import ExactFactorial.Refusal
import ExactFactorial.Text.Blank

namespace ExactFactorial

/-!
# The calculator

Factorials are exact: the result has as many digits as it needs.  A calculator may have a ceiling
on the argument.  A negative argument is refused before the ceiling is looked at, and neither
refusal leaves a trace in the log.
-/

/-- Read one number, with blanks around it ignored.  The refusal keeps the trimmed text. -/
def readNumber (text : String) : Except Refusal Int :=
  let input := Text.trim text
  (Numeral.readSigned input.toList).mapError (.notInteger input)

/-- The product of the numbers from two to `n`, multiplied from the left. -/
def product (n : Nat) : Nat :=
  (List.range' 2 (n - 1)).foldl (· * ·) 1

/-- A calculator refuses every argument above its ceiling, if it has one. -/
structure Calculator where
  ceiling : Option Nat := none
  deriving Repr, DecidableEq

namespace Calculator

/-- The factorial of an argument in range. -/
def compute (calculator : Calculator) (n : Int) : Except Refusal Nat :=
  if n < 0 then .error (.negative n)
  else
    match calculator.ceiling with
    | some limit =>
        if limit < n.toNat then .error (.aboveLimit n.toNat limit) else .ok (product n.toNat)
    | none => .ok (product n.toNat)

/-- The argument read from a text, and its factorial. -/
def computeText (calculator : Calculator) (text : String) : Except Refusal (Int × Nat) := do
  let n ← readNumber text
  let value ← calculator.compute n
  return (n, value)

/-- The number of binary digits of a positive value. -/
def bitLength (value : Nat) : Nat :=
  value.log2 + 1

/-- What is logged for an argument that was computed.  The size is only worth a record when
something was multiplied. -/
def records (n : Int) (value : Nat) : List Log.Record :=
  ⟨.debug, .calculator, "computing " ++ toString n ++ "!"⟩ ::
    if n < 2 then []
    else [⟨.debug, .calculator, toString n ++ "! has " ++ toString (bitLength value) ++ " bits"⟩]

/-- What is logged when a factorial is asked for.  A refusal leaves no trace. -/
def log (calculator : Calculator) (n : Int) : List Log.Record :=
  match calculator.compute n with
  | .ok value => records n value
  | .error _ => []

end Calculator

/-- The factorial without a ceiling. -/
def factorial (n : Int) : Except Refusal Nat :=
  Calculator.compute {} n

end ExactFactorial
