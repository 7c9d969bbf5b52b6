import ExactFactorial.Numeral
import ExactFactorial.Numeral.Decimal
import Mathlib.Algebra.Group.Nat.Defs
import Mathlib.Data.List.TakeWhile

namespace ExactFactorial
namespace Numeral

/-!
# What digits spell

A numeral is read digit by digit, and its bound is checked at each of them.  What digits spell knows
of no bound and of no order of checks: it is their value in base ten.  A value never shrinks when a
digit is appended, so that a bound which holds at the end has held all the way.  Reading therefore
succeeds exactly on the digits whose value is within the bound.
-/

/-- One digit or more, and the value that they have together. -/
structure Spells (digits : List Char) (value : Nat) : Prop where
  nonempty : digits ≠ []
  allDigits : ∀ c ∈ digits, c.isDigit = true
  value : Nat.ofDigitChars 10 digits 0 = value

/-- An unsigned numeral: digits, perhaps after a plus sign, whose value is in range. -/
inductive SpellsUnsigned : List Char → Nat → Prop
  | plain {digits : List Char} {value : Nat} (spells : Spells digits value)
      (inRange : value < UInt64.size) : SpellsUnsigned digits value
  | plus {digits : List Char} {value : Nat} (spells : Spells digits value)
      (inRange : value < UInt64.size) : SpellsUnsigned ('+' :: digits) value

/-- A signed numeral: digits, perhaps after a sign, whose value is in range.  After a minus sign the
range reaches one further. -/
inductive SpellsSigned : List Char → Int → Prop
  | plain {digits : List Char} {value : Nat} (spells : Spells digits value)
      (inRange : (value : Int) ≤ Int64.maxValue.toInt) : SpellsSigned digits value
  | plus {digits : List Char} {value : Nat} (spells : Spells digits value)
      (inRange : (value : Int) ≤ Int64.maxValue.toInt) : SpellsSigned ('+' :: digits) value
  | minus {digits : List Char} {value : Nat} (spells : Spells digits value)
      (inRange : Int64.minValue.toInt ≤ -(value : Int)) : SpellsSigned ('-' :: digits) (-value)

/-! ## Reading digits -/

theorem le_ofDigitChars (digits : List Char) (value : Nat) :
    value ≤ Nat.ofDigitChars 10 digits value := by
  induction digits generalizing value with
  | nil => exact Nat.le_refl value
  | cons c rest inductionHypothesis =>
      rw [Nat.ofDigitChars_cons]
      have grown := inductionHypothesis (10 * value + (c.toNat - '0'.toNat))
      omega

/-- Digits are appended to a value exactly when the value is within the bound at the end. -/
theorem extend_eq_ok_iff (bound : Nat) (beyond : Flaw) {value : Nat} (digits : List Char)
    (result : Nat) (within : value ≤ bound) :
    extend bound beyond value digits = .ok result ↔
      (∀ c ∈ digits, c.isDigit = true) ∧ Nat.ofDigitChars 10 digits value = result ∧
        result ≤ bound := by
  induction digits generalizing value with
  | nil =>
      rw [extend, Nat.ofDigitChars_nil, Except.ok.injEq]
      constructor
      · rintro rfl
        exact ⟨fun _ member => absurd member List.not_mem_nil, rfl, within⟩
      · exact fun parts => parts.2.1
  | cons c rest inductionHypothesis =>
      have grown : value * 10 + digitValue c = 10 * value + (c.toNat - '0'.toNat) := by
        rw [digitValue, Nat.mul_comm]
      rw [extend, grown, Nat.ofDigitChars_cons, List.forall_mem_cons]
      by_cases isDigit : c.isDigit = true
      · by_cases fits : 10 * value + (c.toNat - '0'.toNat) ≤ bound
        · rw [if_pos isDigit, if_pos fits, inductionHypothesis fits]
          exact ⟨fun parts => ⟨⟨isDigit, parts.1⟩, parts.2⟩, fun parts => ⟨parts.1.2, parts.2⟩⟩
        · rw [if_pos isDigit, if_neg fits]
          constructor
          · intro read
            cases read
          · rintro ⟨_, rfl, bounded⟩
            exact absurd (Nat.le_trans (le_ofDigitChars rest _) bounded) fits
      · rw [if_neg isDigit]
        constructor
        · intro read
          cases read
        · exact fun parts => absurd parts.1.1 isDigit

theorem magnitude_eq_ok_iff (bound : Nat) (beyond : Flaw) (digits : List Char) (result : Nat) :
    magnitude bound beyond digits = .ok result ↔ Spells digits result ∧ result ≤ bound := by
  rw [magnitude]
  by_cases nothing : digits = []
  · rw [if_pos (List.isEmpty_iff.mpr nothing)]
    constructor
    · intro read
      cases read
    · exact fun parts => absurd nothing parts.1.nonempty
  · rw [if_neg (mt List.isEmpty_iff.mp nothing),
      extend_eq_ok_iff bound beyond digits result (Nat.zero_le bound)]
    constructor
    · rintro ⟨allDigits, value, bounded⟩
      exact ⟨⟨nothing, allDigits, value⟩, bounded⟩
    · rintro ⟨spells, bounded⟩
      exact ⟨spells.allDigits, spells.value, bounded⟩

/-- A sign is no digit. -/
theorem Spells.head_ne {c sign : Char} {rest : List Char} {value : Nat}
    (spells : Spells (c :: rest) value) (noDigit : sign.isDigit = false) : c ≠ sign := by
  rintro rfl
  have isDigit := spells.allDigits c List.mem_cons_self
  rw [noDigit] at isDigit
  cases isDigit

/-- The unsigned numerals are those that are read. -/
theorem readUnsigned_eq_ok_iff (chars : List Char) (value : Nat) :
    readUnsigned chars = .ok value ↔ SpellsUnsigned chars value := by
  have bound : value ≤ largestUnsigned ↔ value < UInt64.size := by
    unfold largestUnsigned UInt64.size
    omega
  constructor
  · intro read
    cases chars with
    | nil => cases read
    | cons c rest =>
        rw [readUnsigned] at read
        split at read
        · rename_i plus
          rw [magnitude_eq_ok_iff, bound] at read
          rw [plus]
          exact .plus read.1 read.2
        · rw [magnitude_eq_ok_iff, bound] at read
          exact .plain read.1 read.2
  · intro spelled
    cases spelled with
    | plain spells inRange =>
        cases chars with
        | nil => exact absurd rfl spells.nonempty
        | cons c rest =>
            rw [readUnsigned, if_neg (spells.head_ne rfl), magnitude_eq_ok_iff, bound]
            exact ⟨spells, inRange⟩
    | plus spells inRange =>
        rw [readUnsigned, if_pos rfl, magnitude_eq_ok_iff, bound]
        exact ⟨spells, inRange⟩

theorem map_eq_ok_iff {ε α β : Type} (f : α → β) (result : Except ε α) (value : β) :
    result.map f = .ok value ↔ ∃ found, result = .ok found ∧ f found = value := by
  cases result with
  | error flaw =>
      constructor
      · intro mapped
        cases mapped
      · rintro ⟨found, impossible, _⟩
        cases impossible
  | ok found =>
      constructor
      · intro mapped
        exact ⟨found, rfl, Except.ok.inj mapped⟩
      · rintro ⟨other, same, rfl⟩
        rw [Except.ok.inj same]
        rfl

/-- Reading a signed numeral goes by its first character. -/
theorem readSigned_cons (c : Char) (rest : List Char) :
    readSigned (c :: rest) =
      if c = '-' then (magnitude (largestSigned + 1) .tooSmall rest).map fun m : Nat => -(m : Int)
      else if c = '+' then (magnitude largestSigned .tooLarge rest).map fun m : Nat => (m : Int)
      else (magnitude largestSigned .tooLarge (c :: rest)).map fun m : Nat => (m : Int) := by
  rw [readSigned]
  split
  · cases magnitude (largestSigned + 1) .tooSmall rest <;> rfl
  · split
    · cases magnitude largestSigned .tooLarge rest <;> rfl
    · cases magnitude largestSigned .tooLarge (c :: rest) <;> rfl

/-- The signed numerals are those that are read. -/
theorem readSigned_eq_ok_iff (chars : List Char) (n : Int) :
    readSigned chars = .ok n ↔ SpellsSigned chars n := by
  have below : ∀ value : Nat,
      value ≤ largestSigned + 1 ↔ Int64.minValue.toInt ≤ -(value : Int) := by
    have smallest : Int64.minValue.toInt = -9223372036854775808 := rfl
    rw [smallest]
    unfold largestSigned
    omega
  have above : ∀ value : Nat, value ≤ largestSigned ↔ (value : Int) ≤ Int64.maxValue.toInt := by
    have largest : Int64.maxValue.toInt = 9223372036854775807 := rfl
    rw [largest]
    unfold largestSigned
    omega
  constructor
  · intro read
    cases chars with
    | nil => cases read
    | cons c rest =>
        rw [readSigned_cons] at read
        split at read
        · rename_i minus
          rcases (map_eq_ok_iff _ _ _).mp read with ⟨value, found, rfl⟩
          rw [magnitude_eq_ok_iff, below] at found
          rw [minus]
          exact .minus found.1 found.2
        · split at read
          · rename_i plus
            rcases (map_eq_ok_iff _ _ _).mp read with ⟨value, found, rfl⟩
            rw [magnitude_eq_ok_iff, above] at found
            rw [plus]
            exact .plus found.1 found.2
          · rcases (map_eq_ok_iff _ _ _).mp read with ⟨value, found, rfl⟩
            rw [magnitude_eq_ok_iff, above] at found
            exact .plain found.1 found.2
  · intro spelled
    cases spelled with
    | plain spells inRange =>
        cases chars with
        | nil => exact absurd rfl spells.nonempty
        | cons c rest =>
            rw [readSigned_cons, if_neg (spells.head_ne rfl), if_neg (spells.head_ne rfl),
              map_eq_ok_iff]
            exact ⟨_, (magnitude_eq_ok_iff _ _ _ _).mpr ⟨spells, (above _).mpr inRange⟩, rfl⟩
    | plus spells inRange =>
        rw [readSigned_cons, if_neg (by decide), if_pos rfl, map_eq_ok_iff]
        exact ⟨_, (magnitude_eq_ok_iff _ _ _ _).mpr ⟨spells, (above _).mpr inRange⟩, rfl⟩
    | minus spells inRange =>
        rw [readSigned_cons, if_pos rfl, map_eq_ok_iff]
        exact ⟨_, (magnitude_eq_ok_iff _ _ _ _).mpr ⟨spells, (below _).mpr inRange⟩, rfl⟩

/-! ## Reading what was written -/

theorem spells_toDigits (n : Nat) : Spells (Nat.toDigits 10 n) n where
  nonempty := Nat.toDigits_ne_nil
  allDigits := fun _ member => Nat.isDigit_of_mem_toDigits (by decide) (by decide) member
  value := Nat.ofDigitChars_ten_toDigits

theorem toList_toString_nat (n : Nat) : (toString n).toList = Nat.toDigits 10 n := by
  rw [Nat.toString_eq_ofList_toDigits, String.toList_ofList]

/-- Numbers with the same digits are the same. -/
theorem toDigits_injective {m n : Nat} (same : Nat.toDigits 10 m = Nat.toDigits 10 n) : m = n := by
  have spelled := spells_toDigits m
  rw [same] at spelled
  exact spelled.value.symm.trans (spells_toDigits n).value

theorem isDigit_of_mem_toString_nat {n : Nat} {c : Char} (member : c ∈ (toString n).toList) :
    c.isDigit = true := by
  rw [toList_toString_nat] at member
  exact (spells_toDigits n).allDigits c member

theorem toString_of_nonneg {n : Int} (nonneg : 0 ≤ n) : toString n = toString n.toNat := by
  rw [Int.toString_eq_repr, Int.repr_eq_if, if_pos nonneg]
  rfl

theorem toList_toString_of_neg {n : Int} (negative : n < 0) :
    (toString n).toList = '-' :: Nat.toDigits 10 (-n).toNat := by
  rw [Int.toString_eq_repr, Int.repr_eq_if, if_neg (by omega), String.toList_append,
    Nat.toList_repr]
  rfl

/-- The decimal text of an unsigned number is read back. -/
theorem readUnsigned_toString (n : UInt64) :
    readUnsigned (toString n.toNat).toList = .ok n.toNat := by
  rw [toList_toString_nat, readUnsigned_eq_ok_iff]
  exact .plain (spells_toDigits n.toNat) n.toNat_lt_size

/-- The decimal text of a signed number is a numeral for it. -/
theorem spellsSigned_toString (n : Int64) : SpellsSigned (toString n.toInt).toList n.toInt := by
  by_cases negative : n.toInt < 0
  · have size : -((-n.toInt).toNat : Int) = n.toInt := by omega
    have spelled := SpellsSigned.minus (spells_toDigits (-n.toInt).toNat)
      (n.minValue_le_toInt.trans_eq size.symm)
    rw [size] at spelled
    rw [toList_toString_of_neg negative]
    exact spelled
  · have size : (n.toInt.toNat : Int) = n.toInt := by omega
    have spelled := SpellsSigned.plain (spells_toDigits n.toInt.toNat) (size.trans_le n.toInt_le)
    rw [size] at spelled
    rw [toString_of_nonneg (by omega), toList_toString_nat]
    exact spelled

theorem readSigned_toString (n : Int64) : readSigned (toString n.toInt).toList = .ok n.toInt :=
  (readSigned_eq_ok_iff _ _).mpr (spellsSigned_toString n)

/-- A number is written in one line. -/
theorem lineEnd_not_mem_toString_nat (n : Nat) : '\n' ∉ (toString n).toList := by
  rw [toList_toString_nat]
  intro member
  exact absurd ((spells_toDigits n).allDigits _ member) (by decide)

theorem lineEnd_not_mem_toString_int (n : Int) : '\n' ∉ (toString n).toList := by
  by_cases negative : n < 0
  · rw [toList_toString_of_neg negative]
    intro member
    rcases List.mem_cons.mp member with sign | digit
    · exact absurd sign (by decide)
    · exact absurd ((spells_toDigits _).allDigits _ digit) (by decide)
  · rw [toString_of_nonneg (by omega)]
    exact lineEnd_not_mem_toString_nat n.toNat

/-! ## How many digits -/

/-- The first digit of a positive number is not zero. -/
theorem head?_toDigits_ne_zero {n : Nat} (positive : 0 < n) :
    (Nat.toDigits 10 n).head? ≠ some '0' := by
  -- All digits but the last are those of a tenth of the number, which is smaller.
  induction n using Nat.strongRecOn with
  | ind n inductionHypothesis =>
      by_cases small : n < 10
      · rw [Nat.toDigits_of_lt_base small]
        simp only [List.head?_cons, ne_eq, Option.some.injEq, Nat.digitChar_eq_zero]
        omega
      · have tenth := inductionHypothesis (n / 10) (by omega) (by omega)
        rw [Nat.toDigits_of_base_le (by decide) (by omega), List.head?_append]
        cases first : (Nat.toDigits 10 (n / 10)).head? with
        | none => exact absurd (List.head?_eq_none_iff.mp first) Nat.toDigits_ne_nil
        | some c =>
            rw [first] at tenth
            exact tenth

/-- The number of digits lies between two powers of ten. -/
theorem ten_pow_length_toDigits {n : Nat} (positive : 0 < n) :
    10 ^ ((Nat.toDigits 10 n).length - 1) ≤ n ∧ n < 10 ^ (Nat.toDigits 10 n).length := by
  have some : 0 < (Nat.toDigits 10 n).length := Nat.length_toDigits_pos
  constructor
  · by_cases single : (Nat.toDigits 10 n).length = 1
    · rw [single]
      exact positive
    · have fewer : 0 < (Nat.toDigits 10 n).length - 1 := by omega
      apply Nat.le_of_not_lt
      intro below
      have shorter := (Nat.length_toDigits_le_iff (by decide) fewer).mpr below
      omega
  · exact (Nat.length_toDigits_le_iff (by decide) some).mp (Nat.le_refl _)

/-! ## The characters of numerals -/

/-- Every character of a signed numeral is a digit or a sign. -/
theorem SpellsSigned.mem {chars : List Char} {n : Int} (spelled : SpellsSigned chars n) {c : Char}
    (member : c ∈ chars) : c.isDigit = true ∨ c = '+' ∨ c = '-' := by
  cases spelled with
  | plain spells _ => exact .inl (spells.allDigits c member)
  | plus spells _ =>
      rcases List.mem_cons.mp member with sign | later
      · exact .inr (.inl sign)
      · exact .inl (spells.allDigits c later)
  | minus spells _ =>
      rcases List.mem_cons.mp member with sign | later
      · exact .inr (.inr sign)
      · exact .inl (spells.allDigits c later)

/-! ## Numerals look like numbers -/

theorem Spells.isDecimal {digits : List Char} {value : Nat} (spells : Spells digits value) :
    isDecimal digits = true := by
  have whole : digits.takeWhile Char.isDigit = digits :=
    List.takeWhile_eq_self_iff.mpr spells.allDigits
  have after : digits.dropWhile Char.isDigit = [] :=
    List.dropWhile_eq_nil_iff.mpr spells.allDigits
  have some : digits.isEmpty = false := List.isEmpty_eq_false_iff.mpr spells.nonempty
  rw [Numeral.isDecimal, whole, after]
  simp only [some, Bool.not_false, Bool.true_and]
  rfl

theorem SpellsSigned.isDecimal_unsigned {chars : List Char} {n : Int}
    (spelled : SpellsSigned chars n) : isDecimal (unsigned chars) = true := by
  cases spelled with
  | plain spells inRange =>
      cases chars with
      | nil => exact absurd rfl spells.nonempty
      | cons c rest =>
          have notSigned : ¬ (c = '+' ∨ c = '-') :=
            not_or.mpr ⟨spells.head_ne rfl, spells.head_ne rfl⟩
          rw [unsigned, if_neg notSigned]
          exact spells.isDecimal
  | plus spells inRange => exact spells.isDecimal
  | minus spells inRange => exact spells.isDecimal

/-- A text that is read as a signed numeral looks like a number. -/
theorem isNumberLike_of_readSigned {text : String}
    (read : (readSigned text.toList).isOk = true) : isNumberLike text = true := by
  cases found : readSigned text.toList with
  | error flaw =>
      rw [found] at read
      cases read
  | ok n =>
      rw [isNumberLike, ((readSigned_eq_ok_iff _ _).mp found).isDecimal_unsigned, Bool.or_true]

end Numeral
end ExactFactorial
