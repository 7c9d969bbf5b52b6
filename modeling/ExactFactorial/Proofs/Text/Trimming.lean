import ExactFactorial.Text.Blank
import Mathlib.Data.List.TakeWhile

namespace ExactFactorial
namespace Text

/-!
# What trimming takes away

Trimming cuts a text into blanks, what is kept, and blanks.  A character that is not blank is
therefore always kept, whatever stands around it, and blanks put around a text are never seen
behind the trimming.
-/

/-- Only blanks, or nothing. -/
def AllBlank (chars : List Char) : Prop :=
  ∀ c ∈ chars, isBlank c = true

instance (chars : List Char) : Decidable (AllBlank chars) :=
  List.decidableBAll _ chars

theorem allBlank_nil : AllBlank [] :=
  fun _ member => nomatch member

theorem allBlank_singleton {c : Char} (blank : isBlank c = true) : AllBlank [c] := by
  intro other member
  rw [List.mem_singleton.mp member]
  exact blank

/-- Nothing but blanks is cut off at the ends. -/
theorem exists_trimmed_between (chars : List Char) :
    ∃ left right, AllBlank left ∧ AllBlank right ∧ chars = left ++ trimmed chars ++ right := by
  refine ⟨chars.takeWhile isBlank, ((chars.dropWhile isBlank).reverse.takeWhile isBlank).reverse,
    ?_, ?_, ?_⟩
  · intro c member
    exact List.mem_takeWhile_imp member
  · intro c member
    exact List.mem_takeWhile_imp (List.mem_reverse.mp member)
  · have inner : trimmed chars ++ ((chars.dropWhile isBlank).reverse.takeWhile isBlank).reverse =
        chars.dropWhile isBlank := by
      rw [trimmed, ← List.reverse_append, List.takeWhile_append_dropWhile, List.reverse_reverse]
    rw [List.append_assoc, inner, List.takeWhile_append_dropWhile]

theorem mem_trimmed {chars : List Char} {c : Char} (member : c ∈ chars)
    (visible : isBlank c = false) : c ∈ trimmed chars := by
  obtain ⟨left, right, leftBlank, rightBlank, split⟩ := exists_trimmed_between chars
  rw [split] at member
  simp only [List.mem_append] at member
  rcases member with (before | inside) | after
  · exact absurd (leftBlank c before) (by simp [visible])
  · exact inside
  · exact absurd (rightBlank c after) (by simp [visible])

theorem mem_of_mem_trimmed {chars : List Char} {c : Char} (member : c ∈ trimmed chars) :
    c ∈ chars := by
  obtain ⟨left, right, _, _, split⟩ := exists_trimmed_between chars
  rw [split]
  exact List.mem_append_left right (List.mem_append_right left member)

theorem trimmed_eq_self {chars : List Char} (visible : ∀ c ∈ chars, isBlank c = false) :
    trimmed chars = chars := by
  obtain ⟨left, right, leftBlank, rightBlank, split⟩ := exists_trimmed_between chars
  have nothing : ∀ part : List Char, AllBlank part → (∀ c ∈ part, c ∈ chars) → part = [] := by
    intro part blank within
    apply List.eq_nil_iff_forall_not_mem.mpr
    intro c member
    exact absurd (blank c member) (by simp [visible c (within c member)])
  have noLeft : left = [] := nothing left leftBlank fun c member => by
    rw [split]
    simp [member]
  have noRight : right = [] := nothing right rightBlank fun c member => by
    rw [split]
    simp [member]
  rw [noLeft, noRight, List.nil_append, List.append_nil] at split
  exact split.symm

/-- What starts and ends with a character that is kept is kept as a whole. -/
theorem trimmed_eq_self_of_ends {chars : List Char} {first last : Char}
    (visibleFirst : isBlank first = false) (visibleLast : isBlank last = false)
    (starts : chars.head? = some first) (ends : chars.getLast? = some last) :
    trimmed chars = chars := by
  obtain ⟨rest, rfl⟩ := List.head?_eq_some_iff.mp starts
  obtain ⟨before, same⟩ := List.getLast?_eq_some_iff.mp ends
  have front : (first :: rest).dropWhile isBlank = first :: rest := by simp [visibleFirst]
  have back : (before ++ [last]).reverse.dropWhile isBlank = (before ++ [last]).reverse := by
    simp [visibleLast]
  rw [trimmed, front, same, back, List.reverse_reverse]

/-- Blanks around a text make no difference to what is kept. -/
theorem trimmed_between {left right : List Char} (chars : List Char) (leftBlank : AllBlank left)
    (rightBlank : AllBlank right) : trimmed (left ++ chars ++ right) = trimmed chars := by
  have rightReversed : ∀ c ∈ right.reverse, isBlank c = true := fun c member =>
    rightBlank c (List.mem_reverse.mp member)
  rw [trimmed, trimmed, List.append_assoc, List.dropWhile_append_of_pos leftBlank,
    List.dropWhile_append]
  by_cases nothing : (chars.dropWhile isBlank).isEmpty = true
  · have gone : right.dropWhile isBlank = [] := List.dropWhile_eq_nil_iff.mpr rightBlank
    rw [if_pos nothing, gone, List.isEmpty_iff.mp nothing]
  · rw [if_neg nothing, List.reverse_append, List.dropWhile_append_of_pos rightReversed]

/-- What starts with a character that is kept loses blanks at its end only. -/
theorem trimmed_cons_of_visible {c : Char} (visible : isBlank c = false) (rest : List Char) :
    trimmed (c :: rest) = c :: (rest.reverse.dropWhile isBlank).reverse := by
  have start : (c :: rest).dropWhile isBlank = c :: rest := by simp [visible]
  have last : [c].dropWhile isBlank = [c] := by simp [visible]
  rw [trimmed, start, List.reverse_cons, List.dropWhile_append]
  split
  · rename_i nothing
    rw [last, List.isEmpty_iff.mp nothing]
    rfl
  · rw [List.reverse_append]
    rfl

theorem isBlank_head?_dropWhile {chars : List Char} {c : Char}
    (starts : (chars.dropWhile isBlank).head? = some c) : isBlank c = false := by
  have visible := List.head?_dropWhile_not isBlank chars
  rw [starts] at visible
  exact visible

/-- What is kept neither starts nor ends with a blank. -/
theorem isBlank_end_trimmed {chars : List Char} {c : Char}
    (atEnd : (trimmed chars).head? = some c ∨ (trimmed chars).getLast? = some c) :
    isBlank c = false := by
  rcases atEnd with starts | ends
  · have front : trimmed chars <+: chars.dropWhile isBlank := by
      rw [trimmed, ← List.reverse_suffix, List.reverse_reverse]
      exact List.dropWhile_suffix isBlank
    rcases front with ⟨right, split⟩
    have first : (chars.dropWhile isBlank).head? = some c := by
      rw [← split, List.head?_append, starts]
      rfl
    exact isBlank_head?_dropWhile first
  · rw [trimmed, List.getLast?_reverse] at ends
    exact isBlank_head?_dropWhile ends

theorem trim_between {left right : String} (text : String) (leftBlank : AllBlank left.toList)
    (rightBlank : AllBlank right.toList) : trim (left ++ text ++ right) = trim text := by
  simp only [trim, String.toList_append, trimmed_between text.toList leftBlank rightBlank]

theorem isBlank_eq_false_of_isDigit {c : Char} (isDigit : c.isDigit = true) :
    isBlank c = false := by
  have range : 48 ≤ c.toNat ∧ c.toNat ≤ 57 := Char.isDigit_iff_toNat.mp isDigit
  simp only [isBlank, Bool.or_eq_false_iff, Bool.and_eq_false_iff, decide_eq_false_iff_not,
    beq_eq_false_iff_ne]
  omega

end Text
end ExactFactorial
