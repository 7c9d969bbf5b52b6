import ExactFactorial.Proofs.Settings.Lines

namespace ExactFactorial
namespace Settings

/-!
# Lines before and after trimming

A line is trimmed before it is cut into words, and a trimmed line is skipped if it starts with a
hash sign.  Where all blanks are spaces and tabs, blanks at the start of a line are between words
anyway.  At its end they meet the scan in the mode that the rest of the line left: between words, in
a word and in a comment they add nothing, and between quotes they do not close the quote.  After a
backslash the first of them is a part of the word.  There, and only there, trimming changes the
words of a line: the last word loses its blank and keeps the backslash.
-/

/-- The blanks of a line that separate words. -/
def PlainBlanks (line : List Char) : Prop :=
  ∀ c ∈ line, Text.isBlank c = true → c = ' ' ∨ c = '\t'

instance (line : List Char) : Decidable (PlainBlanks line) :=
  List.decidableBAll _ line

theorem PlainBlanks.separates {line part : List Char} (plain : PlainBlanks line)
    (within : part ⊆ line) (blank : Text.AllBlank part) : ∀ c ∈ part, c = ' ' ∨ c = '\t' :=
  fun c member => plain c (within member) (blank c member)

/-- A line that ends in blanks after a backslash which takes the first of them along. -/
inductive EndsEscaped : List Char → Prop
  | escaped {before after : List Char} {mode : Mode} {blank : Char} (closed : Closed before mode)
      (blanks : Text.AllBlank (blank :: after)) : EndsEscaped (before ++ '\\' :: blank :: after)

/-! ## Blanks at either end -/

theorem words_gap_append {gap : List Char} (separates : ∀ c ∈ gap, c = ' ' ∨ c = '\t')
    (line : List Char) : words (gap ++ line) = words line := by
  rw [words, scan_gap_append separates, words]

theorem scan_quoted_blanks {mode : Mode} (quoted : mode = .single ∨ mode = .double)
    {right : List Char} (separates : ∀ c ∈ right, c = ' ' ∨ c = '\t') :
    scan mode right = none := by
  have inside : mode ≠ .gap := by
    rcases quoted with rfl | rfl <;> decide
  induction right with
  | nil => rcases quoted with rfl | rfl <;> rfl
  | cons c right inductionHypothesis =>
      have stays : (mode.step c).2 = mode := by
        rcases quoted with rfl | rfl <;> rcases separates c List.mem_cons_self with rfl | rfl <;>
          decide
      rw [scan_inside inside, stays,
        inductionHypothesis fun d member => separates d (List.mem_cons_of_mem c member)]
      rfl

/-- In every mode but one, blanks at the end of a line are as good as none. -/
theorem scan_blanks {mode : Mode} (unescaped : mode ≠ .escape) {right : List Char}
    (separates : ∀ c ∈ right, c = ' ' ∨ c = '\t') : scan mode right = scan mode [] := by
  cases right with
  | nil => rfl
  | cons c right =>
      have later : ∀ d ∈ right, d = ' ' ∨ d = '\t' := fun d member =>
        separates d (List.mem_cons_of_mem c member)
      cases mode with
      | gap =>
          have skipped := scan_gap_append separates []
          rwa [List.append_nil] at skipped
      | word =>
          have ended := scan_word_append (List.cons_ne_nil c right) separates []
          rwa [List.append_nil] at ended
      | escape => exact absurd rfl unescaped
      | single => exact scan_quoted_blanks (.inl rfl) separates
      | double => exact scan_quoted_blanks (.inr rfl) separates
      | doubleEscape =>
          -- The first blank is escaped here too, but the quote around it stays open.
          have body : scan .double right = none := scan_quoted_blanks (.inr rfl) later
          rw [scan_inside Mode.noConfusion]
          exact congrArg (Option.map _) body

/-- Blanks at the end of a line add nothing to its words, unless a backslash takes the first of them
along. -/
theorem words_append_blanks (front : List Char) {right : List Char}
    (separates : ∀ c ∈ right, c = ' ' ∨ c = '\t') :
    words (front ++ right) = words front ∨ Stands front .escape ∧ right ≠ [] := by
  by_cases nothing : right = []
  · rw [nothing, List.append_nil]
    exact .inl rfl
  rcases comment_or_stands front with ⟨found, settled⟩ | ⟨mode, stands, complete, current, reads⟩
  · have alone := settled []
    rw [List.append_nil] at alone
    exact .inl ((settled right).trans alone.symm)
  · by_cases escape : mode = .escape
    · subst escape
      exact .inr ⟨stands, nothing⟩
    · have alone := reads.words_eq []
      rw [List.append_nil] at alone
      rw [reads.words_eq right, scan_blanks escape separates]
      exact .inl alone.symm

/-- The words of a trimmed line are those of the line up to its last blanks. -/
theorem exists_front {line : List Char} (plain : PlainBlanks line) :
    ∃ front right, line = front ++ right ∧ Text.AllBlank right ∧
      (∀ c ∈ right, c = ' ' ∨ c = '\t') ∧ words (Text.trimmed line) = words front := by
  rcases Text.exists_trimmed_between line with ⟨left, right, leftBlank, rightBlank, split⟩
  refine ⟨left ++ Text.trimmed line, right, split, rightBlank, ?_, ?_⟩
  · apply plain.separates _ rightBlank
    rw [split]
    exact List.subset_append_right _ right
  · apply (words_gap_append (plain.separates _ leftBlank) _).symm
    rw [split, List.append_assoc]
    exact List.subset_append_left left _

/-- A line that ends in no blank keeps its words. -/
theorem words_trimmed_of_visible {line : List Char} {c : Char}
    (plain : PlainBlanks (line ++ [c])) (visible : Text.isBlank c = false) :
    words (Text.trimmed (line ++ [c])) = words (line ++ [c]) := by
  rcases exists_front plain with ⟨front, right, split, rightBlank, _, same⟩
  rcases List.eq_nil_or_concat right with rfl | ⟨before, last, rfl⟩
  · rw [same, split, List.append_nil]
  · rw [List.concat_eq_append] at split rightBlank
    rw [← List.append_assoc] at split
    have blank := rightBlank last (List.mem_append_right before (List.mem_singleton_self last))
    have ends : c = last := List.singleton_inj.mp (List.append_inj' split rfl).2
    rw [← ends, visible] at blank
    cases blank

/-! ## The one difference -/

theorem EndsEscaped.backslash_mem {line : List Char} (escaped : EndsEscaped line) :
    '\\' ∈ line := by
  cases escaped with
  | escaped closed blanks => exact List.mem_append_right _ List.mem_cons_self

/-- Where a backslash takes the first of the last blanks along, the last word ends in that blank, and
after trimming in the backslash. -/
theorem EndsEscaped.words_eq {line : List Char} (escaped : EndsEscaped line)
    (plain : PlainBlanks line) :
    ∃ (complete : List (List Char)) (last : List Char) (blank : Char),
      Text.isBlank blank = true ∧
      words (Text.trimmed line) = some (complete ++ [last ++ ['\\']]) ∧
      words line = some (complete ++ [last ++ [blank]]) := by
  cases escaped with
  | @escaped before after mode blank closed blanks =>
      have opened : Reaches (before ++ ['\\']) .escape :=
        closed.reaches.open closed.outside (by decide) rfl
      rcases opened with ⟨complete, current, reads⟩
      cases current with
      | none => exact Mode.noConfusion (reads.between.mp rfl)
      | some last =>
          have split : before ++ '\\' :: blank :: after = before ++ ['\\'] ++ blank :: after := by
            rw [List.append_assoc, List.singleton_append]
          have front : PlainBlanks (before ++ ['\\']) := by
            intro c member
            apply plain c
            rw [split]
            exact List.mem_append_left _ member
          have later : ∀ c ∈ after, c = ' ' ∨ c = '\t' := by
            apply plain.separates _ fun c member => blanks c (List.mem_cons_of_mem blank member)
            rw [split]
            exact fun c member => List.mem_append_right _ (List.mem_cons_of_mem blank member)
          refine ⟨complete, last, blank, blanks blank List.mem_cons_self, ?_, ?_⟩
          · have trimmed := Text.trimmed_between (before ++ ['\\']) Text.allBlank_nil blanks
            have alone := reads.words_eq []
            rw [List.append_nil] at alone
            rw [split, ← List.nil_append (before ++ ['\\']), trimmed,
              words_trimmed_of_visible front (by decide), alone]
            rfl
          · rw [split, reads.words_eq, scan_inside Mode.noConfusion]
            have ended : scan (Mode.step .escape blank).2 after = some ([], []) :=
              scan_blanks Mode.noConfusion later
            rw [ended]
            simp [resume, Mode.step]

/-- Trimming changes the words of a line exactly where a backslash takes one of its last blanks
along. -/
theorem words_trimmed_eq_iff {line : List Char} (plain : PlainBlanks line) :
    words (Text.trimmed line) = words line ↔ ¬ EndsEscaped line := by
  constructor
  · intro same escaped
    rcases escaped.words_eq plain with ⟨complete, last, blank, isBlank, trimmed, untrimmed⟩
    rw [trimmed, untrimmed] at same
    have ends : blank = '\\' := by simpa [eq_comm] using same
    rw [ends] at isBlank
    exact absurd isBlank (by decide)
  · intro unescaped
    rcases exists_front plain with ⟨front, right, rfl, rightBlank, separates, same⟩
    rcases words_append_blanks front separates with kept | ⟨stands, nonempty⟩
    · rw [same, kept]
    · rcases stands with ⟨before, mode, closed, rfl⟩
      rcases List.exists_cons_of_ne_nil nonempty with ⟨blank, after, rfl⟩
      rw [List.append_assoc, List.singleton_append] at unescaped
      exact absurd (.escaped closed rightBlank) unescaped

/-! ## Files of one line -/

theorem asArguments_inj {first second : Option (List (List Char))} :
    asArguments first = asArguments second ↔ first = second := by
  have texts : ∀ left right : List Char, String.ofList left = String.ofList right → left = right :=
    fun left right same => by simpa using congrArg String.toList same
  cases first <;> cases second <;> simp [asArguments, List.map_inj_right texts]

theorem arguments_of_one_line {content : String} (oneLine : '\n' ∉ content.toList) :
    arguments content = asArguments (words (Text.trimmed content.toList)) := by
  rw [arguments_eq, wordsOfContent_line oneLine]

/-- A file of one line, in which spaces and tabs are the only blanks, holds the words of that line as
it stands, unless the line ends in blanks of which a backslash takes the first along.  In that case
the last argument ends in the backslash instead of the blank. -/
theorem one_line_keeps_words_iff (content : String) (oneLine : '\n' ∉ content.toList)
    (plain : PlainBlanks content.toList) :
    (arguments content = asArguments (words content.toList) ↔ ¬ EndsEscaped content.toList) ∧
    (EndsEscaped content.toList →
      ∃ (complete : List String) (last : String) (blank : Char), Text.isBlank blank = true ∧
        arguments content = .ok (complete ++ [last ++ "\\"]) ∧
        asArguments (words content.toList) = .ok (complete ++ [last ++ String.ofList [blank]])) := by
  rw [arguments_of_one_line oneLine]
  constructor
  · rw [asArguments_inj]
    exact words_trimmed_eq_iff plain
  · intro escaped
    rcases escaped.words_eq plain with ⟨complete, last, blank, isBlank, trimmed, untrimmed⟩
    refine ⟨complete.map String.ofList, String.ofList last, blank, isBlank, ?_, ?_⟩
    · rw [trimmed]
      simp [asArguments]
    · rw [untrimmed]
      simp [asArguments]

/-- A line with blanks at both ends, a quoted blank and a comment. -/
theorem padded_prompt_keeps_words :
    arguments "\t--prompt 'n = ' # ask " =
      asArguments (words "\t--prompt 'n = ' # ask ".toList) := by
  apply (one_line_keeps_words_iff _ (by decide) (by decide)).1.mpr
  intro escaped
  exact absurd escaped.backslash_mem (by decide)

/-- The blank at the end of this prompt is a part of it, and trimming puts a backslash there. -/
theorem escaped_blank_lost :
    '\n' ∉ "--prompt n=\\ ".toList ∧ PlainBlanks "--prompt n=\\ ".toList ∧
    arguments "--prompt n=\\ " = .ok ["--prompt", "n=\\"] ∧
    asArguments (words "--prompt n=\\ ".toList) = .ok ["--prompt", "n= "] := by
  decide

end Settings
end ExactFactorial
