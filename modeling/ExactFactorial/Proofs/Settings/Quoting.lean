import ExactFactorial.Proofs.Settings.Lines

namespace ExactFactorial
namespace Settings

/-!
# Writing arguments so that they are read back

Any list of arguments can be put into a file, as long as no argument contains a line end.  Each word
is written between quotes of either kind, and the characters that would end or change it are
escaped.  Around the words of a line there is room for blanks.

Two things have to be kept apart.  The scan knows quotes and takes spaces and tabs for the ends of
words.  The trimming knows no quotes and takes off blanks of every kind.  They do not get in each
other's way, because the first and the last character of a line that holds words are quotes.
-/

/-! ## How words and lines are written -/

/-- The quotes around a word. -/
inductive Quotes where
  | single
  | double
  deriving Repr, DecidableEq

namespace Quotes

def mark : Quotes → Char
  | .single => '\''
  | .double => '"'

/-- How a character of a word is written.  Nothing can be escaped between apostrophes, so that an
apostrophe is written outside of them. -/
def escape : Quotes → Char → List Char
  | .single, c => if c = '\'' then ['\'', '\\', '\'', '\''] else [c]
  | .double, c => if c = '$' ∨ c = '`' ∨ c = '"' ∨ c = '\\' then ['\\', c] else [c]

def write (quotes : Quotes) (text : List Char) : List Char :=
  quotes.mark :: (text.flatMap quotes.escape ++ [quotes.mark])

/-- The mode of the scan between these quotes. -/
def mode : Quotes → Mode
  | .single => .single
  | .double => .double

end Quotes

/-- A word on a line, with the spaces and tabs before it. -/
structure WrittenWord where
  gap : List Char
  quotes : Quotes
  text : String
  separates : ∀ c ∈ gap, c = ' ' ∨ c = '\t'
  oneLine : '\n' ∉ text.toList

def WrittenWord.write (word : WrittenWord) : List Char :=
  word.gap ++ word.quotes.write word.text.toList

/-- A line with words that do not touch each other, and blanks around them. -/
structure WrittenLine where
  left : List Char
  words : List WrittenWord
  right : List Char
  leftBlank : Text.AllBlank left
  rightBlank : Text.AllBlank right
  leftOneLine : '\n' ∉ left
  rightOneLine : '\n' ∉ right
  apart : ∀ word ∈ words.tail, word.gap ≠ []

namespace WrittenLine

def write (line : WrittenLine) : List Char :=
  line.left ++ line.words.flatMap WrittenWord.write ++ line.right

/-- The arguments that a line holds. -/
def texts (line : WrittenLine) : List String :=
  line.words.map WrittenWord.text

end WrittenLine

/-! ## What the scan adds to a word -/

/-- A part of a line that adds a text to the word in progress. -/
def Adds (mode : Mode) (part text : List Char) (next : Mode) : Prop :=
  ∀ rest, scan mode (part ++ rest) =
    (scan next rest).map fun found => (text ++ found.1, found.2)

theorem adds_nil (mode : Mode) : Adds mode [] [] mode := by
  intro rest
  exact Option.map_id'.symm

theorem Adds.append {first second third : Mode} {left right text more : List Char}
    (before : Adds first left text second) (after : Adds second right more third) :
    Adds first (left ++ right) (text ++ more) third := by
  intro rest
  rw [List.append_assoc, before, after, Option.map_map]
  apply congrArg (Option.map · (scan third rest))
  funext found
  simp only [Function.comp_apply, List.append_assoc]

/-- Inside a word each character is such a part. -/
theorem adds_char (mode : Mode) (inside : mode ≠ .gap) (c : Char) :
    Adds mode [c] (mode.step c).1 (mode.step c).2 :=
  scan_inside inside c

/-- An apostrophe is added by closing the apostrophes around it and opening them again. -/
theorem adds_apostrophe : Adds .single ['\'', '\\', '\'', '\''] ['\''] .single := by
  have closed := adds_char .single (by decide) '\''
  have backslash := adds_char .word (by decide) '\\'
  have taken := adds_char .escape (by decide) '\''
  have reopened := adds_char .word (by decide) '\''
  exact closed.append (backslash.append (taken.append reopened))

theorem adds_escape (quotes : Quotes) (c : Char) :
    Adds quotes.mode (quotes.escape c) [c] quotes.mode := by
  cases quotes with
  | single =>
      by_cases apostrophe : c = '\''
      · subst apostrophe
        exact adds_apostrophe
      · have plain := adds_char .single (by decide) c
        simpa only [Quotes.escape, Quotes.mode, Mode.step, if_neg apostrophe] using plain
  | double =>
      by_cases special : c = '$' ∨ c = '`' ∨ c = '"' ∨ c = '\\'
      · have escapable : isEscapable c = true := by
          rcases special with rfl | rfl | rfl | rfl <;> decide
        have backslash := adds_char .double (by decide) '\\'
        have taken := adds_char .doubleEscape (by decide) c
        rw [Mode.step, if_pos escapable] at taken
        rw [Quotes.escape, if_pos special]
        exact backslash.append taken
      · have plain := adds_char .double (by decide) c
        simp only [not_or] at special
        simpa only [Quotes.escape, Quotes.mode, Mode.step, special, or_self, if_false] using plain

theorem adds_text (quotes : Quotes) (text : List Char) :
    Adds quotes.mode (text.flatMap quotes.escape) text quotes.mode := by
  induction text with
  | nil => exact adds_nil quotes.mode
  | cons c text inductionHypothesis =>
      rw [List.flatMap_cons]
      exact (adds_escape quotes c).append inductionHypothesis

/-! ## Words between gaps -/

/-- A written word is taken whole. -/
theorem scan_write (quotes : Quotes) (text rest : List Char) :
    scan .gap (quotes.write text ++ rest) =
      (scan .word rest).map fun found => ([], (text ++ found.1) :: found.2) := by
  have closed : Adds quotes.mode [quotes.mark] [] .word := by
    cases quotes with
    | single => exact adds_char .single (by decide) '\''
    | double => exact adds_char .double (by decide) '"'
  have body := ((adds_text quotes text).append closed) rest
  rw [List.append_nil] at body
  have opened : scan .gap (quotes.mark :: (text.flatMap quotes.escape ++ [quotes.mark] ++ rest)) =
      (scan quotes.mode (text.flatMap quotes.escape ++ [quotes.mark] ++ rest)).map
        (Mode.gap.attach []) := by
    cases quotes with
    | single => rfl
    | double => rfl
  rw [Quotes.write, List.cons_append, opened, body, Option.map_map]
  rfl

/-- Words that do not touch each other, after the end of one. -/
theorem scan_word_written {written : List WrittenWord}
    (apart : ∀ word ∈ written, word.gap ≠ []) :
    scan .word (written.flatMap WrittenWord.write) =
      some ([], written.map fun word => word.text.toList) := by
  induction written with
  | nil => rfl
  | cons word written inductionHypothesis =>
      have later := inductionHypothesis fun other member =>
        apart other (List.mem_cons_of_mem word member)
      rw [List.flatMap_cons, WrittenWord.write, List.append_assoc,
        scan_word_append (apart word List.mem_cons_self) word.separates, scan_write, later]
      simp

/-! ## Lines and files -/

theorem Quotes.isBlank_mark (quotes : Quotes) : Text.isBlank quotes.mark = false := by
  cases quotes <;> decide

theorem WrittenWord.getLast?_write (word : WrittenWord) :
    word.write.getLast? = some word.quotes.mark := by
  rw [write, Quotes.write, ← List.cons_append, ← List.append_assoc, List.getLast?_concat]

/-- What is written after a mark ends in a mark as well. -/
theorem exists_mark_at_end (first : WrittenWord) (later : List WrittenWord) :
    ∃ quotes : Quotes, (first.quotes.write first.text.toList ++
      later.flatMap WrittenWord.write).getLast? = some quotes.mark := by
  rcases List.eq_nil_or_concat later with rfl | ⟨before, last, rfl⟩
  · refine ⟨first.quotes, ?_⟩
    rw [List.flatMap_nil, List.append_nil, Quotes.write, ← List.cons_append, List.getLast?_concat]
  · refine ⟨last.quotes, ?_⟩
    rw [List.concat_eq_append, List.flatMap_append, List.flatMap_singleton, ← List.append_assoc,
      List.getLast?_append, last.getLast?_write]
    rfl

theorem words_trimmed_write (line : WrittenLine) :
    words (Text.trimmed line.write) = some (line.words.map fun word => word.text.toList) := by
  obtain ⟨left, written, right, leftBlank, rightBlank, _, _, apart⟩ := line
  simp only [WrittenLine.write]
  cases written with
  | nil =>
      exact words_trimmed_between [] leftBlank rightBlank
  | cons first later =>
      have separatorsBlank : Text.AllBlank first.gap := by
        intro c member
        rcases first.separates c member with rfl | rfl <;> decide
      have padding : Text.AllBlank (left ++ first.gap) := by
        intro c member
        exact (List.mem_append.mp member).elim (leftBlank c) (separatorsBlank c)
      have shape : left ++ (first :: later).flatMap WrittenWord.write ++ right =
          (left ++ first.gap) ++ (first.quotes.write first.text.toList ++
            later.flatMap WrittenWord.write) ++ right := by
        simp [WrittenWord.write]
      obtain ⟨quotes, last⟩ := exists_mark_at_end first later
      have kept := Text.trimmed_eq_self_of_ends first.quotes.isBlank_mark quotes.isBlank_mark
        (by rfl) last
      have read : scan .word (later.flatMap WrittenWord.write) = _ := scan_word_written apart
      rw [shape, Text.trimmed_between _ padding rightBlank, kept, words, scan_write, read]
      simp

theorem Quotes.lineEnd_not_mem_write (quotes : Quotes) {text : List Char}
    (oneLine : '\n' ∉ text) : '\n' ∉ quotes.write text := by
  have kept : ∀ c, '\n' ∈ quotes.escape c → c = '\n' := by
    intro c member
    cases quotes with
    | single =>
        simp only [escape] at member
        split at member
        · exact absurd member (by decide)
        · exact (List.mem_singleton.mp member).symm
    | double =>
        simp only [escape] at member
        split at member
        · simpa [eq_comm] using member
        · exact (List.mem_singleton.mp member).symm
  have unmarked : '\n' ≠ quotes.mark := by
    cases quotes <;> decide
  simp only [write, List.mem_cons, List.mem_append, List.mem_flatMap, List.not_mem_nil, or_false,
    not_or, not_exists, not_and]
  refine ⟨unmarked, ?_, unmarked⟩
  intro c inText member
  rw [kept c member] at inText
  exact oneLine inText

theorem WrittenLine.lineEnd_not_mem_write (line : WrittenLine) : '\n' ∉ line.write := by
  have words : '\n' ∉ line.words.flatMap WrittenWord.write := by
    intro member
    obtain ⟨word, _, inside⟩ := List.mem_flatMap.mp member
    rcases List.mem_append.mp inside with gap | quoted
    · rcases word.separates _ gap with impossible | impossible <;> cases impossible
    · exact word.quotes.lineEnd_not_mem_write word.oneLine quoted
  simp only [write, List.mem_append, not_or]
  exact ⟨⟨line.leftOneLine, words⟩, line.rightOneLine⟩

theorem wordsOfContent_written (lines : List WrittenLine) :
    wordsOfContent (joined (lines.map WrittenLine.write)) =
      some ((lines.map WrittenLine.texts).flatten.map String.toList) := by
  induction lines with
  | nil => rfl
  | cons line lines inductionHypothesis =>
      rw [List.map_cons, wordsOfContent_joined_cons, inductionHypothesis,
        wordsOfContent_line line.lineEnd_not_mem_write, words_trimmed_write]
      simp [followedBy, WrittenLine.texts]

/-- A word between apostrophes, after one space. -/
def WrittenWord.usual (text : String) (oneLine : '\n' ∉ text.toList) : WrittenWord where
  gap := [' ']
  quotes := .single
  text := text
  separates := by simp
  oneLine := oneLine

theorem exists_written_line (row : List String) (oneLine : ∀ text ∈ row, '\n' ∉ text.toList) :
    ∃ line : WrittenLine, line.texts = row := by
  have written : ∃ written : List WrittenWord,
      (∀ word ∈ written, word.gap ≠ []) ∧ written.map WrittenWord.text = row := by
    induction row with
    | nil => exact ⟨[], by simp, rfl⟩
    | cons text row inductionHypothesis =>
        obtain ⟨later, apart, texts⟩ := inductionHypothesis fun other member =>
          oneLine other (List.mem_cons_of_mem text member)
        refine ⟨.usual text (oneLine text List.mem_cons_self) :: later, ?_, ?_⟩
        · intro word member
          rcases List.mem_cons.mp member with rfl | member
          · exact List.cons_ne_nil _ _
          · exact apart word member
        · rw [List.map_cons, texts]
          rfl
  obtain ⟨written, apart, texts⟩ := written
  exact ⟨⟨[], written, [], Text.allBlank_nil, Text.allBlank_nil, List.not_mem_nil,
    List.not_mem_nil, fun word member => apart word (List.mem_of_mem_tail member)⟩, texts⟩

/-- Every list of arguments without line ends can be written in a file, and however it is written it
is read back.  The words of a line may be in quotes of both kinds, empty, or full of blanks, quotes,
backslashes and hash signs, and a line may hold none. -/
theorem written_arguments_read_back (rows : List (List String))
    (oneLine : ∀ row ∈ rows, ∀ text ∈ row, '\n' ∉ text.toList) :
    (∃ lines : List WrittenLine, lines.map WrittenLine.texts = rows) ∧
    ∀ lines : List WrittenLine, lines.map WrittenLine.texts = rows →
      arguments (String.ofList (joined (lines.map WrittenLine.write))) = .ok rows.flatten := by
  constructor
  · induction rows with
    | nil => exact ⟨[], rfl⟩
    | cons row rows inductionHypothesis =>
        obtain ⟨line, first⟩ := exists_written_line row (oneLine row List.mem_cons_self)
        obtain ⟨lines, later⟩ := inductionHypothesis fun other member =>
          oneLine other (List.mem_cons_of_mem row member)
        exact ⟨line :: lines, by rw [List.map_cons, first, later]⟩
  · rintro lines rfl
    rw [arguments_ofList, wordsOfContent_written, asArguments, List.map_map]
    simp

/-- Three lines: blanks that are no separators around words in both kinds of quotes, nothing, and an
empty word before an apostrophe. -/
def mixedLines : List WrittenLine :=
  [⟨['\u00a0'], [⟨[], .single, "--prompt", by simp, by decide⟩,
      ⟨['\t', ' '], .double, "it's $5 # ", by simp, by decide⟩], [' ', '\r'],
      by decide, by decide, by decide, by decide, by simp⟩,
    ⟨[], [], [], by decide, by decide, by decide, by decide, by simp⟩,
    ⟨[], [⟨[], .double, "", by simp, by decide⟩,
      ⟨[' '], .single, "it's", by simp, by decide⟩], [],
      by decide, by decide, by decide, by decide, by simp⟩]

theorem mixed_quotes_read_back :
    arguments "\u00a0'--prompt'\t \"it's \\$5 # \" \r\n\n\"\" 'it'\\''s'" =
      .ok ["--prompt", "it's $5 # ", "", "it's"] := by
  have written : joined (mixedLines.map WrittenLine.write) =
      "\u00a0'--prompt'\t \"it's \\$5 # \" \r\n\n\"\" 'it'\\''s'".toList := by decide
  have read := (written_arguments_read_back [["--prompt", "it's $5 # "], [], ["", "it's"]]
    (by decide)).2 mixedLines rfl
  rw [written, String.ofList_toList] at read
  exact read

end Settings
end ExactFactorial
