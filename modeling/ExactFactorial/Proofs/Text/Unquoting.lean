import ExactFactorial.Text.Quoted

namespace ExactFactorial
namespace Text
namespace Quoted

/-!
# Reading quoted text

A quoted text can be read back from the left, one character after the other, whatever follows it.  A
backslash is only ever written to start an escape.  The character behind it tells which escape it
is, and a code point is closed by its brace, which is no hexadecimal digit.  A quote that no
backslash precedes therefore closes the text and is never a part of it.
-/

/-! ## Code points -/

/-- The value of a hexadecimal digit. -/
def hexValue (c : Char) : Nat :=
  if c.isDigit then c.toNat - '0'.toNat else c.toNat - 'a'.toNat + 10

/-- The number that hexadecimal digits spell. -/
def ofHex (digits : List Char) : Nat :=
  digits.foldl (fun value c => value * 16 + hexValue c) 0

theorem hexValue_digitChar : ∀ d < 16, hexValue (Nat.digitChar d) = d := by
  decide

theorem brace_ne_digitChar : ∀ d < 16, '\x7d' ≠ Nat.digitChar d := by
  decide

/-- The digits of a number, all but the last and the last. -/
theorem toDigits_hex_of_le {n : Nat} (large : 16 ≤ n) :
    Nat.toDigits 16 n = Nat.toDigits 16 (n / 16) ++ [Nat.digitChar (n % 16)] :=
  Nat.toDigits_of_base_le (by decide) large

theorem ofHex_toDigits (n : Nat) : ofHex (Nat.toDigits 16 n) = n := by
  induction n using Nat.strongRecOn with
  | ind n inductionHypothesis =>
      by_cases small : n < 16
      · rw [Nat.toDigits_of_lt_base small, ofHex, List.foldl_cons, List.foldl_nil,
          hexValue_digitChar n small]
        omega
      · have front := inductionHypothesis (n / 16) (by omega)
        have last := hexValue_digitChar (n % 16) (Nat.mod_lt n (by decide))
        rw [ofHex] at front
        rw [toDigits_hex_of_le (Nat.not_lt.mp small), ofHex, List.foldl_append, front,
          List.foldl_cons, List.foldl_nil, last]
        omega

theorem brace_not_mem_toDigits (n : Nat) : '\x7d' ∉ Nat.toDigits 16 n := by
  induction n using Nat.strongRecOn with
  | ind n inductionHypothesis =>
      by_cases small : n < 16
      · rw [Nat.toDigits_of_lt_base small, List.mem_singleton]
        exact brace_ne_digitChar n small
      · rw [toDigits_hex_of_le (Nat.not_lt.mp small), List.mem_append, List.mem_singleton, not_or]
        exact ⟨inductionHypothesis (n / 16) (by omega),
          brace_ne_digitChar (n % 16) (Nat.mod_lt n (by decide))⟩

/-! ## One character -/

/-- The control that a letter behind a backslash stands for; any other character stands for
itself. -/
def control (c : Char) : Char :=
  if c = 'n' then '\n'
  else if c = 'r' then '\r'
  else if c = 't' then '\t'
  else if c = '0' then '\x00'
  else c

/-- The character of an escape, read behind its backslash, and what follows. -/
def readEscape : List Char → Option (Char × List Char)
  | [] => none
  | c :: rest =>
      if c = 'u' then
        some (Char.ofNat (ofHex (rest.tail.takeWhile (· != '\x7d'))),
          (rest.tail.dropWhile (· != '\x7d')).tail)
      else some (control c, rest)

/-- The first character that is written, and what follows. -/
def readChar : List Char → Option (Char × List Char)
  | [] => none
  | c :: rest => if c = '\\' then readEscape rest else some (c, rest)

theorem readChar_codePoint (c : Char) (rest : List Char) :
    readChar (codePoint c ++ rest) = some (c, rest) := by
  have digits : ∀ d ∈ Nat.toDigits 16 c.toNat, (d != '\x7d') = true := by
    intro d member
    rw [bne_iff_ne]
    rintro rfl
    exact brace_not_mem_toDigits c.toNat member
  have written : codePoint c ++ rest =
      '\\' :: 'u' :: '\x7b' :: (Nat.toDigits 16 c.toNat ++ '\x7d' :: rest) := by
    simp [codePoint]
  rw [written, readChar, if_pos rfl, readEscape, if_pos rfl, List.tail_cons,
    List.takeWhile_append_of_pos digits, List.dropWhile_append_of_pos digits]
  simp [ofHex_toDigits]

/-- A character is read back as it was, whatever follows it. -/
theorem readChar_escape (c : Char) (rest : List Char) :
    readChar (escape c ++ rest) = some (c, rest) := by
  by_cases quote : c = '"'
  · subst quote
    rfl
  by_cases backslash : c = '\\'
  · subst backslash
    rfl
  by_cases newline : c = '\n'
  · subst newline
    rfl
  by_cases carriageReturn : c = '\r'
  · subst carriageReturn
    rfl
  by_cases tab : c = '\t'
  · subst tab
    rfl
  by_cases null : c = '\x00'
  · subst null
    rfl
  rw [escape, if_neg quote, if_neg backslash, if_neg newline, if_neg carriageReturn, if_neg tab,
    if_neg null]
  by_cases unprintable : isUnprintable c = true
  · rw [if_pos unprintable]
    exact readChar_codePoint c rest
  · rw [if_neg unprintable, List.singleton_append, readChar, if_neg backslash]

/-- No character is written with a quote in front. -/
theorem escape_append_ne_quote (c : Char) (rest later : List Char) :
    escape c ++ rest ≠ '"' :: later := by
  intro same
  -- It would be read as a quote, and that one is written behind a backslash.
  have found := readChar_escape c rest
  rw [same, readChar, if_neg (by decide)] at found
  rcases Prod.mk.inj (Option.some.inj found) with ⟨rfl, _⟩
  exact absurd (List.cons.inj same).1 (by decide)

theorem escape_append_inj {c d : Char} {rest later : List Char}
    (same : escape c ++ rest = escape d ++ later) : c = d ∧ rest = later := by
  have found := readChar_escape c rest
  rw [same, readChar_escape, Option.some.injEq, Prod.mk.injEq] at found
  exact ⟨found.1.symm, found.2.symm⟩

/-! ## A whole text -/

/-- A text ends at its closing quote, wherever else there are quotes. -/
theorem flatMap_escape_append_inj (left right : List Char) {rest later : List Char}
    (same : left.flatMap escape ++ '"' :: rest = right.flatMap escape ++ '"' :: later) :
    left = right ∧ rest = later := by
  induction left generalizing right with
  | nil =>
      cases right with
      | nil => exact ⟨rfl, (List.cons.inj same).2⟩
      | cons d others =>
          rw [List.flatMap_cons, List.append_assoc] at same
          exact absurd same.symm (escape_append_ne_quote d _ rest)
  | cons c more inductionHypothesis =>
      rw [List.flatMap_cons, List.append_assoc] at same
      cases right with
      | nil => exact absurd same (escape_append_ne_quote c _ later)
      | cons d others =>
          rw [List.flatMap_cons, List.append_assoc] at same
          rcases escape_append_inj same with ⟨rfl, behind⟩
          rcases inductionHypothesis others behind with ⟨rfl, follows⟩
          exact ⟨rfl, follows⟩

end Quoted

/-- A quoted text is known, and so is what follows it. -/
theorem quote_append_inj {left right rest later : String}
    (same : quote left ++ rest = quote right ++ later) : left = right ∧ rest = later := by
  have chars := congrArg String.toList same
  simp only [quote, String.toList_append, String.toList_ofList, List.cons_append,
    List.append_assoc, List.cons.injEq, true_and] at chars
  rcases Quoted.flatMap_escape_append_inj _ _ chars with ⟨sameText, follows⟩
  exact ⟨String.toList_inj.mp sameText, String.toList_inj.mp follows⟩

end Text
end ExactFactorial
