import ExactFactorial.Proofs.Settings.Scanning
import Mathlib.Data.List.Induction

namespace ExactFactorial
namespace Settings

/-!
# Quotes that stay open

A line has no words for one reason only, which is that it ends between quotes.  What that means can
be said of its text, without a scan.  A part in which every quote is closed again comes first, then
a quote, and then something that does not close it.  A backslash takes the next character along,
except between apostrophes.  A hash sign where a word could start is no part of such a text, because
no quote is looked for behind it.

The grammar grows to the right and the scan works from the left.  What ties them is the mode in
which the scan stands after a part of the line: one step lemma says what a character does to it, and
by induction the mode after a whole line is the one that the grammar asks for.  A quote is open at
the end exactly when the grammar says so.
-/

/-! ## The texts between quotes and around them -/

/-- What may stand between double quotes without closing them. -/
inductive DoubleBody : List Char → Prop
  | nil : DoubleBody []
  | plain {inside : List Char} {c : Char} (before : DoubleBody inside) (noQuote : c ≠ '"')
      (noEscape : c ≠ '\\') : DoubleBody (inside ++ [c])
  | escaped {inside : List Char} (c : Char) (before : DoubleBody inside) :
      DoubleBody (inside ++ ['\\', c])

/-- The beginning of a line in which every quote is closed.  It ends between words, where a comment
could start, or in a word. -/
inductive Closed : List Char → Mode → Prop
  | start : Closed [] .gap
  | separator {before : List Char} {mode : Mode} {c : Char} (closed : Closed before mode)
      (separates : isSeparator c = true) : Closed (before ++ [c]) .gap
  | plain {before : List Char} {mode : Mode} {c : Char} (closed : Closed before mode)
      (unseparated : isSeparator c = false) (noSingle : c ≠ '\'') (noDouble : c ≠ '"')
      (noEscape : c ≠ '\\') (noComment : mode = .gap → c ≠ '#') : Closed (before ++ [c]) .word
  | escaped {before : List Char} {mode : Mode} (c : Char) (closed : Closed before mode) :
      Closed (before ++ ['\\', c]) .word
  | single {before inside : List Char} {mode : Mode} (closed : Closed before mode)
      (unended : '\'' ∉ inside) : Closed (before ++ '\'' :: (inside ++ ['\''])) .word
  | double {before inside : List Char} {mode : Mode} (closed : Closed before mode)
      (body : DoubleBody inside) : Closed (before ++ '"' :: (inside ++ ['"'])) .word

/-- A line with a quote that is never closed.  Between double quotes the line may also end in a
backslash. -/
inductive Unclosed : List Char → Prop
  | single {before inside : List Char} {mode : Mode} (closed : Closed before mode)
      (unended : '\'' ∉ inside) : Unclosed (before ++ '\'' :: inside)
  | double {before inside : List Char} {mode : Mode} (closed : Closed before mode)
      (body : DoubleBody inside) : Unclosed (before ++ '"' :: inside)
  | doubleEscape {before inside : List Char} {mode : Mode} (closed : Closed before mode)
      (body : DoubleBody inside) : Unclosed (before ++ '"' :: (inside ++ ['\\']))

theorem Closed.outside {before : List Char} {mode : Mode} (closed : Closed before mode) :
    mode = .gap ∨ mode = .word := by
  cases closed with
  | start => exact .inl rfl
  | separator _ _ => exact .inl rfl
  | plain _ _ _ _ _ _ => exact .inr rfl
  | escaped _ _ => exact .inr rfl
  | single _ _ => exact .inr rfl
  | double _ _ => exact .inr rfl

/-! ## One character -/

/-- Outside quotes a character does the same between words and in a word. -/
theorem step_outside {mode : Mode} (outside : mode = .gap ∨ mode = .word) (c : Char) :
    mode.step c = Mode.step .word c := by
  rcases outside with rfl | rfl
  · rfl
  · rfl

/-- Outside quotes a character that is none of a few stays outside. -/
theorem step_of_plain {mode : Mode} {c : Char} (outside : mode = .gap ∨ mode = .word)
    (unseparated : isSeparator c = false) (noSingle : c ≠ '\'') (noDouble : c ≠ '"')
    (noEscape : c ≠ '\\') : mode.step c = ([c], .word) := by
  rw [step_outside outside]
  simp [Mode.step, unseparated, noSingle, noDouble, noEscape]

theorem step_of_separator {mode : Mode} {c : Char} (outside : mode = .gap ∨ mode = .word)
    (separates : isSeparator c = true) : mode.step c = ([], .gap) := by
  rw [step_outside outside]
  simp [Mode.step, separates]

/-! ## From the grammar to the scan -/

theorem Reaches.single {part inside : List Char} (reaches : Reaches part .single)
    (unended : '\'' ∉ inside) : Reaches (part ++ inside) .single := by
  induction inside generalizing part with
  | nil => rwa [List.append_nil]
  | cons c inside inductionHypothesis =>
      simp only [List.mem_cons, not_or] at unended
      have stays : (Mode.step .single c).2 = .single := by
        simp [Mode.step, Ne.symm unended.1]
      have first : Reaches (part ++ [c]) .single :=
        reaches.step_inside Mode.noConfusion stays
      have whole := inductionHypothesis first unended.2
      rwa [List.append_assoc] at whole

theorem Reaches.double {part inside : List Char} (reaches : Reaches part .double)
    (body : DoubleBody inside) : Reaches (part ++ inside) .double := by
  induction body with
  | nil => rwa [List.append_nil]
  | plain _ noQuote noEscape inductionHypothesis =>
      rw [← List.append_assoc]
      apply inductionHypothesis.step_inside Mode.noConfusion
      simp [Mode.step, noQuote, noEscape]
  | @escaped inside c _ inductionHypothesis =>
      have backslash : Reaches (part ++ inside ++ ['\\']) .doubleEscape :=
        inductionHypothesis.step_inside Mode.noConfusion rfl
      have taken : Reaches (part ++ inside ++ ['\\'] ++ [c]) .double :=
        backslash.step_inside Mode.noConfusion rfl
      simpa using taken

/-- A quote or a backslash outside quotes is heard wherever it stands. -/
theorem Reaches.open {part : List Char} {mode next : Mode} {c : Char}
    (reaches : Reaches part mode) (outside : mode = .gap ∨ mode = .word) (special : c ≠ '#')
    (opens : (Mode.step .word c).2 = next) : Reaches (part ++ [c]) next := by
  apply reaches.step fun _ => special
  rw [step_outside outside]
  exact opens

/-- After a part with all quotes closed the scan stands outside quotes. -/
theorem Closed.reaches {before : List Char} {mode : Mode} (closed : Closed before mode) :
    Reaches before mode := by
  induction closed with
  | start => exact ⟨[], none, reads_nil⟩
  | separator closed separates inductionHypothesis =>
      apply inductionHypothesis.step
      · rintro _ rfl
        exact absurd separates (by decide)
      · rw [step_of_separator closed.outside separates]
  | plain closed unseparated noSingle noDouble noEscape noComment inductionHypothesis =>
      apply inductionHypothesis.step noComment
      rw [step_of_plain closed.outside unseparated noSingle noDouble noEscape]
  | @escaped before mode c closed inductionHypothesis =>
      have backslash : Reaches (before ++ ['\\']) .escape :=
        inductionHypothesis.open closed.outside (by decide) rfl
      have taken : Reaches (before ++ ['\\'] ++ [c]) .word :=
        backslash.step_inside Mode.noConfusion rfl
      simpa using taken
  | @single before inside mode closed unended inductionHypothesis =>
      have opened : Reaches (before ++ ['\'']) .single :=
        inductionHypothesis.open closed.outside (by decide) rfl
      have ended : Reaches (before ++ ['\''] ++ inside ++ ['\'']) .word :=
        (opened.single unended).step_inside Mode.noConfusion rfl
      simpa using ended
  | @double before inside mode closed body inductionHypothesis =>
      have opened : Reaches (before ++ ['"']) .double :=
        inductionHypothesis.open closed.outside (by decide) rfl
      have ended : Reaches (before ++ ['"'] ++ inside ++ ['"']) .word :=
        (opened.double body).step_inside Mode.noConfusion rfl
      simpa using ended

theorem Unclosed.words_eq_none {line : List Char} (unclosed : Unclosed line) :
    words line = none := by
  cases unclosed with
  | @single before inside mode closed unended =>
      have opened : Reaches (before ++ ['\'']) .single :=
        closed.reaches.open closed.outside (by decide) rfl
      have reaches := opened.single unended
      rw [List.append_assoc] at reaches
      exact reaches.words_eq_none rfl
  | @double before inside mode closed body =>
      have opened : Reaches (before ++ ['"']) .double :=
        closed.reaches.open closed.outside (by decide) rfl
      have reaches := opened.double body
      rw [List.append_assoc] at reaches
      exact reaches.words_eq_none rfl
  | @doubleEscape before inside mode closed body =>
      have opened : Reaches (before ++ ['"']) .double :=
        closed.reaches.open closed.outside (by decide) rfl
      have reaches : Reaches (before ++ ['"'] ++ inside ++ ['\\']) .doubleEscape :=
        (opened.double body).step_inside Mode.noConfusion rfl
      simp only [List.append_assoc] at reaches
      exact reaches.words_eq_none rfl

/-! ## From the scan to the grammar -/

/-- What has been read when the scan stands in a mode. -/
def Stands (read : List Char) : Mode → Prop
  | .gap => Closed read .gap
  | .word => Closed read .word
  | .escape => ∃ before mode, Closed before mode ∧ read = before ++ ['\\']
  | .single => ∃ before mode inside, Closed before mode ∧ '\'' ∉ inside ∧
      read = before ++ '\'' :: inside
  | .double => ∃ before mode inside, Closed before mode ∧ DoubleBody inside ∧
      read = before ++ '"' :: inside
  | .doubleEscape => ∃ before mode inside, Closed before mode ∧ DoubleBody inside ∧
      read = before ++ '"' :: (inside ++ ['\\'])

theorem Closed.stands_step {read : List Char} {mode : Mode} (closed : Closed read mode) {c : Char}
    (heard : mode = .gap → c ≠ '#') : Stands (read ++ [c]) (mode.step c).2 := by
  have same := step_outside closed.outside c
  by_cases separates : isSeparator c = true
  · rw [step_of_separator closed.outside separates]
    exact closed.separator separates
  by_cases single : c = '\''
  · subst single
    rw [same]
    exact ⟨read, mode, [], closed, List.not_mem_nil, rfl⟩
  by_cases double : c = '"'
  · subst double
    rw [same]
    exact ⟨read, mode, [], closed, .nil, rfl⟩
  by_cases escape : c = '\\'
  · subst escape
    rw [same]
    exact ⟨read, mode, closed, rfl⟩
  rw [Bool.not_eq_true] at separates
  rw [step_of_plain closed.outside separates single double escape]
  exact closed.plain separates single double escape heard

/-- One character: the scan goes on to stand in the mode that the longer text asks for. -/
theorem Stands.step {read : List Char} {mode : Mode} (stands : Stands read mode) {c : Char}
    (heard : mode = .gap → c ≠ '#') : Stands (read ++ [c]) (mode.step c).2 := by
  cases mode with
  | gap => exact Closed.stands_step stands heard
  | word => exact Closed.stands_step stands heard
  | escape =>
      obtain ⟨before, mode, closed, rfl⟩ := stands
      rw [List.append_assoc]
      exact closed.escaped c
  | single =>
      obtain ⟨before, mode, inside, closed, unended, rfl⟩ := stands
      rw [List.append_assoc, List.cons_append]
      by_cases ends : c = '\''
      · subst ends
        exact closed.single unended
      · have more : '\'' ∉ inside ++ [c] := by
          simp only [List.mem_append, List.mem_singleton, not_or]
          exact ⟨unended, Ne.symm ends⟩
        rw [Mode.step, if_neg ends]
        exact ⟨before, mode, inside ++ [c], closed, more, rfl⟩
  | double =>
      obtain ⟨before, mode, inside, closed, body, rfl⟩ := stands
      rw [List.append_assoc, List.cons_append]
      by_cases ends : c = '"'
      · subst ends
        exact closed.double body
      by_cases escapes : c = '\\'
      · subst escapes
        exact ⟨before, mode, inside, closed, body, rfl⟩
      · rw [Mode.step, if_neg ends, if_neg escapes]
        exact ⟨before, mode, inside ++ [c], closed, body.plain ends escapes, rfl⟩
  | doubleEscape =>
      obtain ⟨before, mode, inside, closed, body, rfl⟩ := stands
      refine ⟨before, mode, inside ++ ['\\', c], closed, body.escaped c, ?_⟩
      simp only [List.append_assoc, List.cons_append, List.nil_append]

/-- After any part of a line the scan has met a comment, and then the words are settled, or it stands
in a mode that fits the grammar. -/
theorem comment_or_stands (part : List Char) :
    (∃ found, ∀ rest, words (part ++ rest) = some found) ∨
      ∃ mode, Stands part mode ∧ Reaches part mode := by
  induction part using List.reverseRecOn with
  | nil => exact .inr ⟨.gap, .start, [], none, reads_nil⟩
  | append_singleton part c inductionHypothesis =>
      rcases inductionHypothesis with ⟨found, settled⟩ | ⟨mode, stands, reaches⟩
      · refine .inl ⟨found, fun rest => ?_⟩
        rw [List.append_assoc]
        exact settled _
      · by_cases comment : mode = .gap ∧ c = '#'
        · rcases comment with ⟨rfl, rfl⟩
          rcases reaches with ⟨complete, current, reads⟩
          exact .inl ⟨complete, reads.words_of_comment⟩
        · have heard : mode = .gap → c ≠ '#' := not_and.mp comment
          exact .inr ⟨(mode.step c).2, stands.step heard, reaches.step heard rfl⟩

/-- A line has words unless one of its quotes is never closed. -/
theorem words_eq_none_iff (line : List Char) : words line = none ↔ Unclosed line := by
  constructor
  · intro failed
    rcases comment_or_stands line with ⟨found, settled⟩ | ⟨mode, stands, complete, current, reads⟩
    · have whole := settled []
      rw [List.append_nil, failed] at whole
      cases whole
    · have whole := reads.words_eq []
      rw [List.append_nil, failed] at whole
      cases mode with
      | gap => cases whole
      | word => cases whole
      | escape => cases whole
      | single =>
          rcases stands with ⟨before, mode, inside, closed, unended, rfl⟩
          exact .single closed unended
      | double =>
          rcases stands with ⟨before, mode, inside, closed, body, rfl⟩
          exact .double closed body
      | doubleEscape =>
          rcases stands with ⟨before, mode, inside, closed, body, rfl⟩
          exact .doubleEscape closed body
  · exact Unclosed.words_eq_none

end Settings
end ExactFactorial
