import ExactFactorial.Calculator
import ExactFactorial.Proofs.Numeral.Faults
import ExactFactorial.Proofs.Text.Trimming

namespace ExactFactorial

/-!
# Which texts are numbers

A text is read as a number through its trimmed text.  No character of a numeral is blank, so that
trimming gives back the numeral whatever blanks stand around it, and a text is a number exactly when
it is a numeral between blanks.  Of a text that is refused the trimmed text is kept, together with
the flaw that explains it.
-/

/-- Nothing of a numeral is lost by trimming. -/
theorem Numeral.SpellsSigned.trimmed_eq {numeral : List Char} {n : Int}
    (spelled : SpellsSigned numeral n) : Text.trimmed numeral = numeral := by
  apply Text.trimmed_eq_self
  intro c member
  rcases spelled.mem member with isDigit | rfl | rfl
  · exact Text.isBlank_eq_false_of_isDigit isDigit
  · decide
  · decide

theorem readNumber_eq_ok_iff (text : String) (n : Int) :
    readNumber text = .ok n ↔ Numeral.SpellsSigned (Text.trimmed text.toList) n := by
  rw [← Numeral.readSigned_eq_ok_iff, readNumber, Text.trim, String.toList_ofList]
  cases Numeral.readSigned (Text.trimmed text.toList) <;> simp [Except.mapError]

/-- A refused text is refused for the flaw that explains its trimmed text. -/
theorem readNumber_eq_error_iff (text : String) (refusal : Refusal) :
    readNumber text = .error refusal ↔
      ∃ flaw : Numeral.Flaw, flaw.Explains (Text.trim text).toList ∧
        refusal = .notInteger (Text.trim text) flaw := by
  simp only [← Numeral.readSigned_eq_error_iff]
  rw [readNumber]
  cases Numeral.readSigned (Text.trim text).toList <;> simp [Except.mapError, eq_comm]

/-- A numeral between blanks is read as its number. -/
theorem readNumber_of_spelled {left numeral right : String} {n : Int}
    (leftBlank : Text.AllBlank left.toList) (rightBlank : Text.AllBlank right.toList)
    (spelled : Numeral.SpellsSigned numeral.toList n) :
    readNumber (left ++ numeral ++ right) = .ok n := by
  rw [readNumber_eq_ok_iff, String.toList_append, String.toList_append,
    Text.trimmed_between _ leftBlank rightBlank, spelled.trimmed_eq]
  exact spelled

/-- A number is read off its decimal text. -/
theorem readNumber_toString (n : Int64) : readNumber (toString n.toInt) = .ok n.toInt := by
  have spelled := Numeral.spellsSigned_toString n
  rw [readNumber_eq_ok_iff, spelled.trimmed_eq]
  exact spelled

/-- The texts that are read as a number are its signed numerals between blanks, and no others.  The
decimal text of a number in range is one of its numerals. -/
theorem exactly_padded_numerals_read :
    (∀ (text : String) (n : Int), readNumber text = .ok n ↔
      ∃ left numeral right : String, text = left ++ numeral ++ right ∧
        Text.AllBlank left.toList ∧ Text.AllBlank right.toList ∧
        Numeral.SpellsSigned numeral.toList n) ∧
    (∀ (n : Int64) (left right : String),
      Text.AllBlank left.toList → Text.AllBlank right.toList →
      readNumber (left ++ toString n.toInt ++ right) = .ok n.toInt) := by
  constructor
  · intro text n
    constructor
    · intro read
      rcases Text.exists_trimmed_between text.toList with ⟨left, right, leftBlank, rightBlank, split⟩
      refine ⟨String.ofList left, Text.trim text, String.ofList right, ?_, ?_, ?_, ?_⟩
      · rw [Text.trim, ← String.ofList_append, ← String.ofList_append, ← split, String.ofList_toList]
      · rwa [String.toList_ofList]
      · rwa [String.toList_ofList]
      · rw [Text.trim, String.toList_ofList]
        exact (readNumber_eq_ok_iff text n).mp read
    · rintro ⟨left, numeral, right, rfl, leftBlank, rightBlank, spelled⟩
      exact readNumber_of_spelled leftBlank rightBlank spelled
  · intro n left right leftBlank rightBlank
    exact readNumber_of_spelled leftBlank rightBlank (Numeral.spellsSigned_toString n)

/-- A plus sign and leading zeros after a wide blank and before a line end, and the least number. -/
theorem padded_zeros_and_least_number_read :
    readNumber "\u3000+007\r\n" = .ok 7 ∧
    readNumber "\t-9223372036854775808\u00a0" = .ok (-9223372036854775808) := by
  have digits : "007".toList.all Char.isDigit = true := by decide
  have zeros : Numeral.Spells "007".toList 7 := ⟨by decide, List.all_eq_true.mp digits, by decide⟩
  have inRange : ((7 : Nat) : Int) ≤ Int64.maxValue.toInt := by
    have largest : Int64.maxValue.toInt = 9223372036854775807 := rfl
    omega
  constructor
  · exact (exactly_padded_numerals_read.1 _ 7).mpr
      ⟨"\u3000", "+007", "\r\n", rfl, by decide, by decide, .plus zeros inRange⟩
  · exact exactly_padded_numerals_read.2 Int64.minValue "\t" "\u00a0" (by decide) (by decide)

end ExactFactorial
