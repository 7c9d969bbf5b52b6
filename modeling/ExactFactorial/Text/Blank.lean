namespace ExactFactorial
namespace Text

/-!
# Blanks

The blank characters are those with the Unicode property White_Space.  Trimming takes them off
both ends of a text and never looks at those inside.
-/

/-- The characters with the property White_Space. -/
def isBlank (c : Char) : Bool :=
  let v := c.toNat
  (0x09 ≤ v && v ≤ 0x0D) || v == 0x20 || v == 0x85 || v == 0xA0 || v == 0x1680 ||
    (0x2000 ≤ v && v ≤ 0x200A) || v == 0x2028 || v == 0x2029 || v == 0x202F || v == 0x205F ||
    v == 0x3000

/-- The characters without the blanks at either end. -/
def trimmed (chars : List Char) : List Char :=
  ((chars.dropWhile isBlank).reverse.dropWhile isBlank).reverse

/-- The text without the blanks at either end. -/
def trim (text : String) : String :=
  String.ofList (trimmed text.toList)

end Text
end ExactFactorial
