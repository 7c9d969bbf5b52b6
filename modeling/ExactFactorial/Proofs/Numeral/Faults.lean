import ExactFactorial.Proofs.Numeral.Digits
import Mathlib.Algebra.Group.Nat.Defs
import Mathlib.Order.Bounds.Basic

namespace ExactFactorial
namespace Numeral

/-!
# Where a numeral fails

A text that is no numeral has a first character at which this shows.  It is no digit, or the digits
up to it are worth more than the bound allows.  Which of the two it is decides the flaw, and nothing
behind that character counts.

A fault is said of a position without any reading.  The reading keeps the value of the digits behind
it, so that faults are counted from a value to start with: one more digit moves every later fault by
one position and leaves the first one the first.
-/

/-! ## Signs -/

/-- The sign in front of the digits. -/
inductive Sign where
  | absent
  | plus
  | minus
  deriving Repr, DecidableEq

namespace Sign

/-- The sign with which a text starts. -/
def ofChars : List Char → Sign
  | [] => .absent
  | c :: _ => if c = '-' then .minus else if c = '+' then .plus else .absent

/-- The largest magnitude after a sign. -/
def bound : Sign → Nat
  | .absent | .plus => 2 ^ 63 - 1
  | .minus => 2 ^ 63

/-- The flaw of a larger magnitude. -/
def beyond : Sign → Flaw
  | .absent | .plus => .tooLarge
  | .minus => .tooSmall

/-- A magnitude with its sign. -/
def signed : Sign → Nat → Int
  | .absent, m | .plus, m => m
  | .minus, m => -m

theorem beyond_ne_empty (sign : Sign) : sign.beyond ≠ .empty := by
  cases sign <;> decide

end Sign

theorem map_eq_error_iff {ε α β : Type} (f : α → β) (result : Except ε α) (failure : ε) :
    result.map f = .error failure ↔ result = .error failure := by
  cases result <;> simp [Except.map]

/-- A signed numeral is its sign and the magnitude behind it. -/
theorem readSigned_eq_magnitude {chars : List Char} (some : chars ≠ []) :
    readSigned chars =
      (magnitude (Sign.ofChars chars).bound (Sign.ofChars chars).beyond (unsigned chars)).map
        (Sign.ofChars chars).signed := by
  cases chars with
  | nil => exact absurd rfl some
  | cons c rest =>
      rw [readSigned_cons, Sign.ofChars, unsigned]
      by_cases minus : c = '-'
      · rw [if_pos minus, if_pos minus, if_pos (.inr minus)]
        rfl
      · by_cases plus : c = '+'
        · rw [if_neg minus, if_pos plus, if_neg minus, if_pos plus, if_pos (.inl plus)]
          rfl
        · rw [if_neg minus, if_neg plus, if_neg minus, if_neg plus,
            if_neg (not_or.mpr ⟨plus, minus⟩)]
          rfl

/-! ## Faults -/

/-- The character at a position is no digit, or the digits up to it take the value they start from
beyond the bound. -/
def FaultAt (bound start : Nat) (chars : List Char) (k : Nat) : Prop :=
  ∃ c, chars[k]? = some c ∧
    (c.isDigit = false ∨
      (∀ d ∈ chars.take (k + 1), d.isDigit = true) ∧
        bound < Nat.ofDigitChars 10 (chars.take (k + 1)) start)

/-- The flaw at the first fault. -/
def LeftmostFlaw (bound start : Nat) (beyond : Flaw) (chars : List Char) (flaw : Flaw) : Prop :=
  ∃ k c, IsLeast {k | FaultAt bound start chars k} k ∧ chars[k]? = some c ∧
    flaw = if c.isDigit then beyond else .invalidDigit

section

variable {bound start : Nat} {beyond flaw : Flaw} {c : Char} {rest : List Char}

theorem faultAt_zero_iff :
    FaultAt bound start (c :: rest) 0 ↔
      c.isDigit = false ∨
        c.isDigit = true ∧ bound < 10 * start + (c.toNat - '0'.toNat) := by
  simp [FaultAt, Nat.ofDigitChars_cons]

theorem faultAt_succ_iff (isDigit : c.isDigit = true) (k : Nat) :
    FaultAt bound start (c :: rest) (k + 1) ↔
      FaultAt bound (10 * start + (c.toNat - '0'.toNat)) rest k := by
  simp [FaultAt, Nat.ofDigitChars_cons, isDigit]

/-- A fault in the first character is the first fault. -/
theorem leftmostFlaw_of_fault (fault : FaultAt bound start (c :: rest) 0) :
    LeftmostFlaw bound start beyond (c :: rest) flaw ↔
      flaw = if c.isDigit then beyond else .invalidDigit := by
  constructor
  · rintro ⟨k, found, ⟨_, least⟩, here, rfl⟩
    have first : k = 0 := Nat.le_zero.mp (least fault)
    subst first
    rw [Option.some.inj here]
  · rintro rfl
    exact ⟨0, c, ⟨fault, fun k _ => Nat.zero_le k⟩, rfl, rfl⟩

/-- Without one, the first fault lies behind it. -/
theorem leftmostFlaw_of_no_fault (isDigit : c.isDigit = true)
    (sound : ¬ FaultAt bound start (c :: rest) 0) :
    LeftmostFlaw bound start beyond (c :: rest) flaw ↔
      LeftmostFlaw bound (10 * start + (c.toNat - '0'.toNat)) beyond rest flaw := by
  constructor
  · rintro ⟨k, found, ⟨fault, least⟩, here, rfl⟩
    cases k with
    | zero => exact absurd fault sound
    | succ k =>
        refine ⟨k, found, ⟨(faultAt_succ_iff isDigit k).mp fault, ?_⟩, here, rfl⟩
        intro j later
        exact Nat.le_of_succ_le_succ (least ((faultAt_succ_iff isDigit j).mpr later))
  · rintro ⟨k, found, ⟨fault, least⟩, here, rfl⟩
    refine ⟨k + 1, found, ⟨(faultAt_succ_iff isDigit k).mpr fault, ?_⟩, here, rfl⟩
    intro j later
    cases j with
    | zero => exact absurd later sound
    | succ j => exact Nat.succ_le_succ (least ((faultAt_succ_iff isDigit j).mp later))

end

theorem not_leftmostFlaw_nil {bound start : Nat} {beyond flaw : Flaw} :
    ¬ LeftmostFlaw bound start beyond [] flaw := by
  rintro ⟨_, _, _, here, _⟩
  cases here

/-- Digits cannot be appended for one reason only, which is the flaw at the first fault. -/
theorem extend_eq_error_iff (bound : Nat) (beyond : Flaw) (start : Nat) (chars : List Char)
    (flaw : Flaw) :
    extend bound beyond start chars = .error flaw ↔
      LeftmostFlaw bound start beyond chars flaw := by
  -- For any value to start from, because the digit in front changes it for the rest.
  induction chars generalizing start with
  | nil => exact iff_of_false (fun failed => nomatch failed) not_leftmostFlaw_nil
  | cons c rest inductionHypothesis =>
      have grown : start * 10 + digitValue c = 10 * start + (c.toNat - '0'.toNat) := by
        rw [digitValue, Nat.mul_comm]
      rw [extend, grown]
      by_cases isDigit : c.isDigit = true
      · by_cases fits : 10 * start + (c.toNat - '0'.toNat) ≤ bound
        · have sound : ¬ FaultAt bound start (c :: rest) 0 := by
            rw [faultAt_zero_iff, isDigit]
            exact not_or.mpr ⟨Bool.noConfusion, fun exceeds => Nat.not_lt.mpr fits exceeds.2⟩
          rw [if_pos isDigit, if_pos fits, leftmostFlaw_of_no_fault isDigit sound]
          exact inductionHypothesis _
        · have fault : FaultAt bound start (c :: rest) 0 :=
            faultAt_zero_iff.mpr (.inr ⟨isDigit, Nat.not_le.mp fits⟩)
          rw [if_pos isDigit, if_neg fits, leftmostFlaw_of_fault fault, if_pos isDigit,
            Except.error.injEq, eq_comm]
      · have fault : FaultAt bound start (c :: rest) 0 :=
          faultAt_zero_iff.mpr (.inl (Bool.eq_false_iff.mpr isDigit))
        rw [if_neg isDigit, leftmostFlaw_of_fault fault, if_neg isDigit, Except.error.injEq,
          eq_comm]

/-- Digits that are missing altogether count as a wrong one. -/
theorem magnitude_eq_error_iff (bound : Nat) (beyond : Flaw) (digits : List Char) (flaw : Flaw) :
    magnitude bound beyond digits = .error flaw ↔
      digits = [] ∧ flaw = .invalidDigit ∨ LeftmostFlaw bound 0 beyond digits flaw := by
  rw [magnitude]
  cases digits with
  | nil =>
      rw [List.isEmpty_nil, if_pos rfl, Except.error.injEq, eq_comm]
      constructor
      · exact fun same => .inl ⟨rfl, same⟩
      · exact fun cause => cause.elim And.right fun leftmost => absurd leftmost not_leftmostFlaw_nil
  | cons c rest =>
      rw [if_neg Bool.noConfusion, extend_eq_error_iff]
      constructor
      · exact .inr
      · exact fun cause => cause.resolve_left fun missing => List.cons_ne_nil c rest missing.1

/-! ## Why a text is no signed numeral -/

/-- The flaw fits a text.  Only nothing at all is empty, a lone sign lacks a digit, and behind an
optional sign the first fault decides. -/
structure Flaw.Explains (flaw : Flaw) (chars : List Char) : Prop where
  empty : flaw = .empty ↔ chars = []
  loneSign : chars = ['+'] ∨ chars = ['-'] → flaw = .invalidDigit
  leftmost : unsigned chars ≠ [] →
    LeftmostFlaw (Sign.ofChars chars).bound 0 (Sign.ofChars chars).beyond (unsigned chars) flaw

theorem LeftmostFlaw.ne_empty {bound start : Nat} {beyond flaw : Flaw} {chars : List Char}
    (leftmost : LeftmostFlaw bound start beyond chars flaw) (named : beyond ≠ .empty) :
    flaw ≠ .empty := by
  rcases leftmost with ⟨_, c, _, _, rfl⟩
  split
  · exact named
  · exact Flaw.noConfusion

theorem unsigned_eq_nil_iff (chars : List Char) :
    unsigned chars = [] ↔ chars = [] ∨ chars = ['+'] ∨ chars = ['-'] := by
  cases chars with
  | nil => simp [unsigned]
  | cons c rest =>
      rw [unsigned]
      split
      · rename_i sign
        rcases sign with rfl | rfl <;> simp
      · rename_i noSign
        simp only [not_or] at noSign
        simp [noSign.1, noSign.2]

/-- A text is refused for exactly the flaw that fits it. -/
theorem readSigned_eq_error_iff (chars : List Char) (flaw : Flaw) :
    readSigned chars = .error flaw ↔ flaw.Explains chars := by
  by_cases nothing : chars = []
  · subst nothing
    constructor
    · intro failed
      rw [← Except.error.inj failed]
      exact ⟨⟨fun _ => rfl, fun _ => rfl⟩, fun lone => by simp at lone, fun some => absurd rfl some⟩
    · intro explains
      rw [explains.empty.mpr rfl]
      rfl
  · rw [readSigned_eq_magnitude nothing, map_eq_error_iff, magnitude_eq_error_iff]
    constructor
    · rintro (⟨missing, rfl⟩ | leftmost)
      · exact ⟨iff_of_false Flaw.noConfusion nothing, fun _ => rfl,
          fun some => absurd missing some⟩
      · refine ⟨iff_of_false (leftmost.ne_empty (Sign.beyond_ne_empty _)) nothing, ?_,
          fun _ => leftmost⟩
        intro lone
        rw [(unsigned_eq_nil_iff chars).mpr (.inr lone)] at leftmost
        exact absurd leftmost not_leftmostFlaw_nil
    · intro explains
      by_cases missing : unsigned chars = []
      · have lone := ((unsigned_eq_nil_iff chars).mp missing).resolve_left nothing
        exact .inl ⟨missing, explains.loneSign lone⟩
      · exact .inr (explains.leftmost missing)

/-! ## Why a text is no unsigned numeral -/

/-- The text without one leading plus sign. -/
def afterPlus : List Char → List Char
  | [] => []
  | c :: rest => if c = '+' then rest else c :: rest

/-- An unsigned numeral is the magnitude behind an optional plus sign. -/
theorem readUnsigned_eq_magnitude {chars : List Char} (some : chars ≠ []) :
    readUnsigned chars = magnitude (2 ^ 64 - 1) .tooLarge (afterPlus chars) := by
  cases chars with
  | nil => exact absurd rfl some
  | cons c rest =>
      rw [readUnsigned, afterPlus]
      by_cases plus : c = '+'
      · rw [if_pos plus, if_pos plus]
        rfl
      · rw [if_neg plus, if_neg plus]
        rfl

theorem afterPlus_eq_nil_iff (chars : List Char) :
    afterPlus chars = [] ↔ chars = [] ∨ chars = ['+'] := by
  cases chars with
  | nil => simp [afterPlus]
  | cons c rest =>
      rw [afterPlus]
      by_cases plus : c = '+'
      · rw [if_pos plus]
        simp [plus]
      · rw [if_neg plus]
        simp [plus]

/-- The flaw fits a text that should have been unsigned.  Only nothing at all is empty, a plus sign
alone lacks a digit, a minus sign is as wrong as any other character that is no digit, and behind an
optional plus sign the first fault decides. -/
structure Flaw.ExplainsUnsigned (flaw : Flaw) (chars : List Char) : Prop where
  empty : flaw = .empty ↔ chars = []
  lonePlus : chars = ['+'] → flaw = .invalidDigit
  minus : chars.head? = some '-' → flaw = .invalidDigit
  leftmost : afterPlus chars ≠ [] →
    LeftmostFlaw (2 ^ 64 - 1) 0 .tooLarge (afterPlus chars) flaw

/-- The first fault behind an optional plus sign explains the text. -/
theorem LeftmostFlaw.explainsUnsigned {chars : List Char} {flaw : Flaw}
    (leftmost : LeftmostFlaw (2 ^ 64 - 1) 0 .tooLarge (afterPlus chars) flaw) :
    flaw.ExplainsUnsigned chars where
  empty := by
    have nonempty : chars ≠ [] := by
      rintro rfl
      exact not_leftmostFlaw_nil leftmost
    exact iff_of_false (leftmost.ne_empty Flaw.noConfusion) nonempty
  lonePlus := by
    rintro rfl
    exact absurd leftmost not_leftmostFlaw_nil
  minus := by
    intro starts
    obtain ⟨rest, rfl⟩ := List.head?_eq_some_iff.mp starts
    have fault : FaultAt (2 ^ 64 - 1) 0 ('-' :: rest) 0 := faultAt_zero_iff.mpr (.inl rfl)
    exact (leftmostFlaw_of_fault fault).mp leftmost
  leftmost := fun _ => leftmost

/-- A text is refused as an unsigned numeral for exactly the flaw that fits it. -/
theorem readUnsigned_eq_error_iff (chars : List Char) (flaw : Flaw) :
    readUnsigned chars = .error flaw ↔ flaw.ExplainsUnsigned chars := by
  by_cases nothing : chars = []
  · subst nothing
    constructor
    · intro failed
      rw [← Except.error.inj failed]
      exact ⟨iff_of_true rfl rfl, fun lone => absurd lone (by simp),
        fun starts => absurd starts (by simp), fun some => absurd rfl some⟩
    · intro explains
      rw [explains.empty.mpr rfl]
      rfl
  · rw [readUnsigned_eq_magnitude nothing, magnitude_eq_error_iff]
    constructor
    · rintro (⟨missing, rfl⟩ | leftmost)
      · exact ⟨iff_of_false Flaw.noConfusion nothing, fun _ => rfl, fun _ => rfl,
          fun some => absurd missing some⟩
      · exact leftmost.explainsUnsigned
    · intro explains
      by_cases missing : afterPlus chars = []
      · have lone := ((afterPlus_eq_nil_iff chars).mp missing).resolve_left nothing
        exact .inl ⟨missing, explains.lonePlus lone⟩
      · exact .inr (explains.leftmost missing)

end Numeral
end ExactFactorial
