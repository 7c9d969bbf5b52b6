import ExactFactorial.Text.Unprintable

namespace ExactFactorial
namespace Text
namespace Quoted

/-!
# Quoted text

A text in a diagnostic stands between double quotes.  The quote and the backslash are written after
a backslash, four controls have a letter of their own, and any other unprintable character is
written by its code point.  Every other character is written as it is, the apostrophe included.
-/

/-- The code point in lower-case hexadecimal digits, without leading zeros. -/
def codePoint (c : Char) : List Char :=
  ['\\', 'u', '\x7b'] ++ Nat.toDigits 16 c.toNat ++ ['\x7d']

/-- How one character is written between the quotes. -/
def escape (c : Char) : List Char :=
  if c = '"' then ['\\', '"']
  else if c = '\\' then ['\\', '\\']
  else if c = '\n' then ['\\', 'n']
  else if c = '\r' then ['\\', 'r']
  else if c = '\t' then ['\\', 't']
  else if c = '\x00' then ['\\', '0']
  else if isUnprintable c then codePoint c
  else [c]

end Quoted

/-- The text between double quotes, with escapes. -/
def quote (text : String) : String :=
  String.ofList ('"' :: text.toList.flatMap Quoted.escape ++ ['"'])

end Text
end ExactFactorial
