import ExactFactorial.Settings.Words

namespace ExactFactorial
namespace Settings

/-!
# Words from the left

The scan of a line is written from the right.  Read from the left, a part of a line leaves words
that are complete, perhaps a word in progress, and the mode in which the scan goes on.  That is all
the rest of the line needs to know, so that what is said about a line can be said character by
character.
-/

/-! ## One step of the scan -/

theorem scan_gap_separator {c : Char} (separates : isSeparator c = true) (rest : List Char) :
    scan .gap (c :: rest) = scan .gap rest := by
  rw [scan, if_pos ⟨rfl, separates⟩]

/-- A character that starts a word. -/
theorem scan_gap_start {c : Char} (unseparated : isSeparator c = false) (noComment : c ≠ '#')
    (rest : List Char) :
    scan .gap (c :: rest) =
      (scan (Mode.step .gap c).2 rest).map fun found =>
        ([], ((Mode.step .gap c).1 ++ found.1) :: found.2) := by
  have noSeparator : ¬ (Mode.gap = .gap ∧ isSeparator c = true) := by
    rintro ⟨_, separates⟩
    rw [unseparated] at separates
    cases separates
  rw [scan, if_neg noSeparator, if_neg fun hash => noComment hash.2]
  rfl

/-- Inside a word each character adds what the step says. -/
theorem scan_inside {mode : Mode} (inside : mode ≠ .gap) (c : Char) (rest : List Char) :
    scan mode (c :: rest) =
      (scan (mode.step c).2 rest).map fun found => ((mode.step c).1 ++ found.1, found.2) := by
  have attached : mode.attach (mode.step c).1 =
      fun found => ((mode.step c).1 ++ found.1, found.2) := by
    cases mode with
    | gap => exact absurd rfl inside
    | word => rfl
    | escape => rfl
    | single => rfl
    | double => rfl
    | doubleEscape => rfl
  rw [scan, if_neg fun between => inside between.1, if_neg fun between => inside between.1,
    attached]

/-- Between words none is in progress. -/
theorem fst_of_scan_gap {line : List Char} {found : List Char × List (List Char)}
    (scanned : scan .gap line = some found) : found.1 = [] := by
  induction line with
  | nil =>
      cases scanned
      rfl
  | cons c rest inductionHypothesis =>
      rw [scan] at scanned
      split at scanned
      · exact inductionHypothesis scanned
      · split at scanned
        · cases scanned
          rfl
        · rcases Option.map_eq_some_iff.mp scanned with ⟨later, _, rfl⟩
          rfl

/-- Only a separator leads back between words. -/
theorem step_gap_ne_gap {c : Char} (unseparated : isSeparator c = false) :
    (Mode.step .gap c).2 ≠ .gap := by
  rw [Mode.step, unseparated, if_neg Bool.false_ne_true]
  split
  · exact Mode.noConfusion
  · split
    · exact Mode.noConfusion
    · split <;> exact Mode.noConfusion

/-! ## Spaces and tabs -/

theorem isSeparator_of_eq {c : Char} (blank : c = ' ' ∨ c = '\t') : isSeparator c = true := by
  rcases blank with rfl | rfl <;> rfl

theorem scan_gap_append {gap : List Char} (separates : ∀ c ∈ gap, c = ' ' ∨ c = '\t')
    (rest : List Char) : scan .gap (gap ++ rest) = scan .gap rest := by
  induction gap with
  | nil => rfl
  | cons c gap inductionHypothesis =>
      have first := isSeparator_of_eq (separates c List.mem_cons_self)
      rw [List.cons_append, scan_gap_separator first]
      exact inductionHypothesis fun d member => separates d (List.mem_cons_of_mem c member)

/-- Spaces and tabs after a word end it. -/
theorem scan_word_append {gap : List Char} (some : gap ≠ [])
    (separates : ∀ c ∈ gap, c = ' ' ∨ c = '\t') (rest : List Char) :
    scan .word (gap ++ rest) = scan .gap rest := by
  cases gap with
  | nil => exact absurd rfl some
  | cons c gap =>
      have first := isSeparator_of_eq (separates c List.mem_cons_self)
      have ended : Mode.step .word c = ([], .gap) := by rw [Mode.step, if_pos first]
      rw [List.cons_append, scan_inside Mode.noConfusion, ended,
        scan_gap_append fun d member => separates d (List.mem_cons_of_mem c member)]
      exact Option.map_id'

/-! ## A part of a line -/

/-- The words that are complete, then the one in progress if there is one, and what the rest of the
line gives. -/
def resume (complete : List (List Char)) :
    Option (List Char) → List Char × List (List Char) → List (List Char)
  | none, found => complete ++ found.2
  | some current, found => complete ++ (current ++ found.1) :: found.2

/-- After a part of a line the scan stands in a mode, with these words behind it.  One of them is in
progress unless the scan stands between words. -/
structure Reads (part : List Char) (mode : Mode) (complete : List (List Char))
    (current : Option (List Char)) : Prop where
  between : current = none ↔ mode = .gap
  words_eq : ∀ rest, words (part ++ rest) = (scan mode rest).map (resume complete current)

theorem reads_nil : Reads [] .gap [] none where
  between := ⟨fun _ => rfl, fun _ => rfl⟩
  words_eq := fun _ => rfl

namespace Reads

variable {part : List Char} {mode : Mode} {complete : List (List Char)}
  {current : Option (List Char)}

theorem words_append_cons (reads : Reads part mode complete current) (c : Char)
    (rest : List Char) :
    words (part ++ [c] ++ rest) = (scan mode (c :: rest)).map (resume complete current) := by
  rw [List.append_assoc, List.singleton_append, reads.words_eq]

/-- A comment ends the line with the words that are complete. -/
theorem words_of_comment (reads : Reads part .gap complete current) (rest : List Char) :
    words (part ++ ['#'] ++ rest) = some complete := by
  rw [reads.words_append_cons, reads.between.mpr rfl]
  exact congrArg some (List.append_nil complete)

/-- A separator between words changes nothing. -/
theorem skip (reads : Reads part .gap complete none) {c : Char}
    (separates : isSeparator c = true) : Reads (part ++ [c]) .gap complete none where
  between := reads.between
  words_eq := fun rest => by rw [reads.words_append_cons, scan_gap_separator separates]

/-- Any other character but a hash sign starts a word there. -/
theorem start (reads : Reads part .gap complete none) {c : Char}
    (unseparated : isSeparator c = false) (noComment : c ≠ '#') :
    Reads (part ++ [c]) (Mode.step .gap c).2 complete (some (Mode.step .gap c).1) where
  between := iff_of_false (fun impossible => nomatch impossible) (step_gap_ne_gap unseparated)
  words_eq := fun rest => by
    rw [reads.words_append_cons, scan_gap_start unseparated noComment, Option.map_map]
    rfl

/-- Inside a word a character adds to it, and may be the end of it. -/
theorem words_inside {text : List Char} (reads : Reads part mode complete (some text)) (c : Char)
    (rest : List Char) :
    words (part ++ [c] ++ rest) =
      (scan (mode.step c).2 rest).map (resume complete (some (text ++ (mode.step c).1))) := by
  have inside : mode ≠ .gap := fun between => nomatch reads.between.mpr between
  rw [reads.words_append_cons, scan_inside inside, Option.map_map]
  apply congrArg (Option.map · (scan (mode.step c).2 rest))
  funext found
  simp only [Function.comp_apply, resume, List.append_assoc]

/-- One character. -/
theorem step (reads : Reads part mode complete current) {c : Char}
    (heard : mode = .gap → c ≠ '#') :
    ∃ complete current, Reads (part ++ [c]) (mode.step c).2 complete current := by
  cases current with
  | none =>
      have between : mode = .gap := reads.between.mp rfl
      subst between
      by_cases separates : isSeparator c = true
      · have stays : (Mode.step .gap c).2 = .gap := by rw [Mode.step, if_pos separates]
        rw [stays]
        exact ⟨complete, none, reads.skip separates⟩
      · exact ⟨complete, _, reads.start (Bool.eq_false_iff.mpr separates) (heard rfl)⟩
  | some text =>
      by_cases ends : (mode.step c).2 = .gap
      · -- The word is complete, and the rest of the line, read between words, adds nothing to it.
        refine ⟨complete ++ [text ++ (mode.step c).1], none, ⟨⟨fun _ => ends, fun _ => rfl⟩, ?_⟩⟩
        intro rest
        rw [reads.words_inside, ends]
        apply Option.map_congr
        intro found scanned
        simp [resume, fst_of_scan_gap scanned]
      · exact ⟨complete, some (text ++ (mode.step c).1),
          ⟨iff_of_false (fun impossible => nomatch impossible) ends, reads.words_inside c⟩⟩

end Reads

/-- The scan can stand in a mode after a part of a line. -/
def Reaches (part : List Char) (mode : Mode) : Prop :=
  ∃ complete current, Reads part mode complete current

namespace Reaches

variable {part : List Char} {mode next : Mode}

theorem step (reaches : Reaches part mode) {c : Char} (heard : mode = .gap → c ≠ '#')
    (leads : (mode.step c).2 = next) : Reaches (part ++ [c]) next := by
  rcases reaches with ⟨complete, current, reads⟩
  rw [← leads]
  exact reads.step heard

/-- Inside a word a hash sign is a character like any other. -/
theorem step_inside (reaches : Reaches part mode) {c : Char} (inside : mode ≠ .gap)
    (leads : (mode.step c).2 = next) : Reaches (part ++ [c]) next :=
  reaches.step (fun between => absurd between inside) leads

/-- A line that ends in a mode that cannot be closed has no words. -/
theorem words_eq_none (reaches : Reaches part mode) (unclosable : mode.close = none) :
    words part = none := by
  rcases reaches with ⟨complete, current, reads⟩
  have whole := reads.words_eq []
  rw [List.append_nil, scan, unclosable] at whole
  exact whole

end Reaches
end Settings
end ExactFactorial
