namespace ExactFactorial
namespace Numeral

/-!
# Whole numbers in decimal digits

A numeral is read from the left.  The first character at which it fails decides the flaw, and at
one character the digit is checked before the size.  A signed numeral lies from `-2^63` to
`2^63 - 1`; an unsigned one lies below `2^64` and takes no minus sign.  Leading zeros are accepted
in any number.
-/

/-- Why a text is not a numeral. -/
inductive Flaw where
  | empty
  | invalidDigit
  | tooLarge
  | tooSmall
  deriving Repr, DecidableEq

/-- The wording of a flaw. -/
def Flaw.message : Flaw → String
  | .empty => "cannot parse integer from empty string"
  | .invalidDigit => "invalid digit found in string"
  | .tooLarge => "number too large to fit in target type"
  | .tooSmall => "number too small to fit in target type"

/-- The value of a decimal digit. -/
def digitValue (c : Char) : Nat :=
  c.toNat - '0'.toNat

/-- Append the digits to a value that may not pass `bound`; `beyond` is the flaw if it does. -/
def extend (bound : Nat) (beyond : Flaw) : Nat → List Char → Except Flaw Nat
  | value, [] => .ok value
  | value, c :: rest =>
      if c.isDigit then
        let grown := value * 10 + digitValue c
        if grown ≤ bound then extend bound beyond grown rest else .error beyond
      else .error .invalidDigit

/-- The digits after an optional sign.  A sign with nothing after it lacks a digit. -/
def magnitude (bound : Nat) (beyond : Flaw) (digits : List Char) : Except Flaw Nat :=
  if digits.isEmpty then .error .invalidDigit else extend bound beyond 0 digits

/-- The largest signed numeral, `2^63 - 1`. -/
def largestSigned : Nat := 9223372036854775807

/-- The largest unsigned numeral, `2^64 - 1`. -/
def largestUnsigned : Nat := 18446744073709551615

/-- Read a signed numeral.  Below zero one more value is in range. -/
def readSigned : List Char → Except Flaw Int
  | [] => .error .empty
  | c :: rest =>
      if c = '-' then (magnitude (largestSigned + 1) .tooSmall rest).map fun m => -(m : Int)
      else if c = '+' then (magnitude largestSigned .tooLarge rest).map fun m => (m : Int)
      else (magnitude largestSigned .tooLarge (c :: rest)).map fun m => (m : Int)

/-- Read an unsigned numeral.  A minus sign is no digit. -/
def readUnsigned : List Char → Except Flaw Nat
  | [] => .error .empty
  | c :: rest =>
      if c = '+' then magnitude largestUnsigned .tooLarge rest
      else magnitude largestUnsigned .tooLarge (c :: rest)

end Numeral
end ExactFactorial
