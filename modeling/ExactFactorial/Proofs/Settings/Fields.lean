import ExactFactorial.Proofs.Settings.Lines

namespace ExactFactorial
namespace Settings

/-!
# Files without quotes

Where no quote and no backslash occurs, the words of a line can be had without a scan.  The trimmed
line is split at runs of spaces and tabs, and the first field that starts with a hash sign is left
out with all that follow it.  Trimming takes off blanks of every kind, but only a space or a tab
splits, so that any other blank inside a line is a part of its field.

The split and the scan are compared from the right.  A split knows no modes.  It puts a character in
front of the first piece of the rest or puts an empty piece in front of all.  The scan has two modes
left, because nothing opens a quote or an escape.  In a word the first piece of the rest belongs to
that word whatever it is.  Between words the same piece is dropped if it is empty and is a comment if
it starts with a hash sign.  Neither mode goes on without the other, so that one induction carries
both.
-/

/-! ## Splitting instead of scanning -/

/-- No character that quotes another. -/
def Unquoted (text : List Char) : Prop :=
  ∀ c ∈ text, c ≠ '\'' ∧ c ≠ '"' ∧ c ≠ '\\'

instance (text : List Char) : Decidable (Unquoted text) :=
  List.decidableBAll _ text

/-- What stands before, between and after the spaces and tabs of a line. -/
def pieces (line : List Char) : List (List Char) :=
  line.splitOnP fun c => c == ' ' || c == '\t'

/-- Pieces without the empty ones, up to the first that starts with a hash sign. -/
def uncommented (split : List (List Char)) : List (List Char) :=
  (split.filter fun piece => !piece.isEmpty).takeWhile fun field => field.head? != some '#'

/-- The fields of a line before its comment. -/
def plainFields (line : List Char) : List (List Char) :=
  uncommented (pieces line)

theorem Unquoted.of_subset {part text : List Char} (unquoted : Unquoted text)
    (within : part ⊆ text) : Unquoted part :=
  fun c member => unquoted c (within member)

/-- There is always a first piece, which may be empty. -/
theorem exists_pieces_eq_cons (line : List Char) :
    ∃ first later, pieces line = first :: later :=
  List.exists_cons_of_ne_nil (List.splitOnP_ne_nil _ line)

theorem pieces_cons_of_separator {c : Char} (separates : isSeparator c = true)
    (rest : List Char) : pieces (c :: rest) = [] :: pieces rest := by
  rw [pieces, List.splitOnP_cons_eq_if_modifyHead]
  exact if_pos separates

theorem pieces_cons_of_not_separator {c : Char} (unseparated : isSeparator c = false)
    (rest : List Char) : pieces (c :: rest) = (pieces rest).modifyHead (c :: ·) := by
  rw [pieces, List.splitOnP_cons_eq_if_modifyHead]
  exact if_neg (Bool.eq_false_iff.mp unseparated)

@[simp] theorem uncommented_nil_cons (later : List (List Char)) :
    uncommented ([] :: later) = uncommented later :=
  rfl

/-- A comment takes the rest of the line along. -/
@[simp] theorem uncommented_hash (first : List Char) (later : List (List Char)) :
    uncommented (('#' :: first) :: later) = [] :=
  rfl

theorem uncommented_cons {c : Char} (noComment : c ≠ '#') (first : List Char)
    (later : List (List Char)) :
    uncommented ((c :: first) :: later) = (c :: first) :: uncommented later := by
  have heard : ((c :: first).head? != some '#') = true := by simpa using noComment
  rw [uncommented, List.filter_cons_of_pos rfl]
  exact List.takeWhile_cons_of_pos heard

/-! ## The two scans of the rest of a line -/

/-- The scan gives the same for the rest of a line as these pieces, in a word and between words. -/
structure SplitsInto (rest first : List Char) (later : List (List Char)) : Prop where
  inside : scan .word rest = some (first, uncommented later)
  between : scan .gap rest = some ([], uncommented (first :: later))

namespace SplitsInto

variable {rest first : List Char} {later : List (List Char)}

theorem nil : SplitsInto [] [] [] where
  inside := rfl
  between := rfl

/-- A space or a tab ends the word, and the first piece after it starts one of its own. -/
theorem separator (splits : SplitsInto rest first later) {c : Char}
    (separates : isSeparator c = true) : SplitsInto (c :: rest) [] (first :: later) where
  inside := by
    rw [scan_inside Mode.noConfusion, step_of_separator (.inr rfl) separates, splits.between]
    rfl
  between := by
    rw [scan_gap_separator separates, splits.between, uncommented_nil_cons]

/-- Any other character is put in front of the first piece.  Only between words a hash sign there
makes it a comment. -/
theorem plain (splits : SplitsInto rest first later) {c : Char}
    (unseparated : isSeparator c = false) (noSingle : c ≠ '\'') (noDouble : c ≠ '"')
    (noEscape : c ≠ '\\') : SplitsInto (c :: rest) (c :: first) later where
  inside := by
    rw [scan_inside Mode.noConfusion,
      step_of_plain (.inr rfl) unseparated noSingle noDouble noEscape, splits.inside]
    rfl
  between := by
    by_cases comment : c = '#'
    · subst comment
      rw [uncommented_hash]
      rfl
    · rw [scan_gap_start unseparated comment,
        step_of_plain (.inl rfl) unseparated noSingle noDouble noEscape, splits.inside,
        uncommented_cons comment]
      rfl

end SplitsInto

theorem splitsInto_pieces {line first : List Char} {later : List (List Char)}
    (unquoted : Unquoted line) (split : pieces line = first :: later) :
    SplitsInto line first later := by
  induction line generalizing first later with
  | nil =>
      cases split
      exact .nil
  | cons c rest inductionHypothesis =>
      have unquotedRest : Unquoted rest := unquoted.of_subset (List.subset_cons_self c rest)
      rcases exists_pieces_eq_cons rest with ⟨next, others, splitRest⟩
      have splits := inductionHypothesis unquotedRest splitRest
      cases separates : isSeparator c with
      | true =>
          rw [pieces_cons_of_separator separates, splitRest] at split
          cases split
          exact splits.separator separates
      | false =>
          rcases unquoted c List.mem_cons_self with ⟨noSingle, noDouble, noEscape⟩
          rw [pieces_cons_of_not_separator separates, splitRest] at split
          cases split
          exact splits.plain separates noSingle noDouble noEscape

/-- The words of a line without quotes are its fields before the comment. -/
theorem words_of_unquoted {line : List Char} (unquoted : Unquoted line) :
    words line = some (plainFields line) := by
  rcases exists_pieces_eq_cons line with ⟨first, later, split⟩
  have splits := splitsInto_pieces unquoted split
  rw [words, splits.between, plainFields, split]
  rfl

/-! ## Lines and files -/

theorem words_trimmed_of_unquoted {content line : List Char} (unquoted : Unquoted content)
    (member : line ∈ content.splitOn '\n') :
    words (Text.trimmed line) = some (plainFields (Text.trimmed line)) := by
  have within : line ⊆ content := by
    have kept := subset_joined member
    rwa [joined_splitOn] at kept
  apply words_of_unquoted
  apply unquoted.of_subset
  exact fun c inside => within (Text.mem_of_mem_trimmed inside)

/-- A file without quotes and backslashes is never refused.  Its arguments are the fields of its
trimmed lines, one line after the other and each line up to its comment. -/
theorem unquoted_file_is_plain_fields (content : String)
    (unquoted : Unquoted content.toList) :
    arguments content =
      .ok (((content.toList.splitOn '\n').flatMap fun line =>
        plainFields (Text.trimmed line)).map String.ofList) := by
  have read : wordsOfContent content.toList = some _ :=
    wordsOfLines_eq_flatMap fun _ member => words_trimmed_of_unquoted unquoted member
  rw [arguments_eq, read]
  rfl

/-- A no-break space and a carriage return, at the ends of lines and inside a field, and hash signs
at the start of a line, inside fields and at the start of one. -/
theorem inner_blanks_and_hashes_kept :
    Unquoted "\u00a0--limit\t 10\r\n# 5\u00a0\n-p n=\u00a0#\r? a#b\t#c #".toList ∧
    arguments "\u00a0--limit\t 10\r\n# 5\u00a0\n-p n=\u00a0#\r? a#b\t#c #" =
      .ok ["--limit", "10", "-p", "n=\u00a0#\r?", "a#b"] := by
  have unquoted :
      Unquoted "\u00a0--limit\t 10\r\n# 5\u00a0\n-p n=\u00a0#\r? a#b\t#c #".toList := by decide
  have read := unquoted_file_is_plain_fields _ unquoted
  exact ⟨unquoted, read.trans (by decide)⟩

end Settings
end ExactFactorial
