namespace ExactFactorial
namespace Numeral

/-!
# Texts that look like a number

An argument that starts with a minus sign may be a number and not a switch.  The test accepts every
decimal number with an optional fraction and exponent, however long, and the three words for the
values that are not finite.  Only its answer matters: no value is computed.
-/

/-- The text without one leading sign. -/
def unsigned : List Char → List Char
  | [] => []
  | c :: rest => if c = '+' ∨ c = '-' then rest else c :: rest

/-- One digit or more, and nothing else. -/
def isDigits (chars : List Char) : Bool :=
  !chars.isEmpty && chars.all Char.isDigit

/-- Nothing at all, or the letter `e` with a signed run of digits. -/
def isExponent : List Char → Bool
  | [] => true
  | c :: rest => (c == 'e' || c == 'E') && isDigits (unsigned rest)

/-- A run of digits with an optional point in or around it, then an optional exponent. -/
def isDecimal (chars : List Char) : Bool :=
  let whole := chars.takeWhile Char.isDigit
  match chars.dropWhile Char.isDigit with
  | '.' :: rest =>
      let fraction := rest.takeWhile Char.isDigit
      !(whole.isEmpty && fraction.isEmpty) && isExponent (rest.dropWhile Char.isDigit)
  | rest => !whole.isEmpty && isExponent rest

/-- The words for infinity and for an undefined value, in any case. -/
def isUnbounded (chars : List Char) : Bool :=
  ["inf", "infinity", "nan"].contains (String.ofList (chars.map Char.toLower))

/-- Whether a text reads as a number, fractions and exponents included. -/
def isNumberLike (text : String) : Bool :=
  let body := unsigned text.toList
  isUnbounded body || isDecimal body

end Numeral
end ExactFactorial
