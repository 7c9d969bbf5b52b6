import ExactFactorial.Proofs.Settings.OpenQuotes
import ExactFactorial.Proofs.Text.Trimming
import ExactFactorial.Settings.Loading

namespace ExactFactorial
namespace Settings

/-!
# Files line by line

No quote, escape or comment reaches beyond the end of its line.  The arguments of a file are
therefore those of its lines, one line after the other, and they are all there or none is.  All that
is said about edits of a file follows from two facts.  Contents can be joined at a line end, and
blanks around a content are not seen.  A line that is skipped needs no rule of its own, because the
words of such a line are none.
-/

/-! ## Words of one line after another -/

/-- Words followed by more words, if both are there. -/
def followedBy (first second : Option (List (List Char))) : Option (List (List Char)) :=
  first.bind fun before => second.map (before ++ ·)

theorem followedBy_eq_some_iff {first second : Option (List (List Char))}
    {found : List (List Char)} :
    followedBy first second = some found ↔
      ∃ before after, first = some before ∧ second = some after ∧ found = before ++ after := by
  constructor
  · intro together
    obtain ⟨before, rfl, rest⟩ := Option.bind_eq_some_iff.mp together
    obtain ⟨after, rfl, rfl⟩ := Option.map_eq_some_iff.mp rest
    exact ⟨before, after, rfl, rfl, rfl⟩
  · rintro ⟨before, after, rfl, rfl, rfl⟩
    rfl

theorem followedBy_eq_none_iff {first second : Option (List (List Char))} :
    followedBy first second = none ↔ first = none ∨ second = none := by
  cases first <;> cases second <;> simp [followedBy]

@[simp] theorem nil_followedBy (second : Option (List (List Char))) :
    followedBy (some []) second = second := by
  cases second <;> rfl

@[simp] theorem followedBy_nil (first : Option (List (List Char))) :
    followedBy first (some []) = first := by
  cases first with
  | none => rfl
  | some before => simp [followedBy]

theorem followedBy_assoc (first second third : Option (List (List Char))) :
    followedBy (followedBy first second) third = followedBy first (followedBy second third) := by
  cases first <;> cases second <;> cases third <;> simp [followedBy]

/-- The words of trimmed lines, one line after the other. -/
def wordsOfLines : List (List Char) → Option (List (List Char))
  | [] => some []
  | line :: later => followedBy (words (Text.trimmed line)) (wordsOfLines later)

/-- The words of a content. -/
def wordsOfContent (content : List Char) : Option (List (List Char)) :=
  wordsOfLines (content.splitOn '\n')

theorem wordsOfLines_append (lines later : List (List Char)) :
    wordsOfLines (lines ++ later) = followedBy (wordsOfLines lines) (wordsOfLines later) := by
  induction lines with
  | nil => exact (nil_followedBy _).symm
  | cons line lines inductionHypothesis =>
      rw [List.cons_append, wordsOfLines, inductionHypothesis, wordsOfLines, followedBy_assoc]

/-- If every line has words, so do all of them together. -/
theorem wordsOfLines_eq_flatMap {lines : List (List Char)}
    {found : List Char → List (List Char)}
    (read : ∀ line ∈ lines, words (Text.trimmed line) = some (found line)) :
    wordsOfLines lines = some (lines.flatMap found) := by
  induction lines with
  | nil => rfl
  | cons line lines inductionHypothesis =>
      have later := inductionHypothesis fun other member =>
        read other (List.mem_cons_of_mem line member)
      rw [wordsOfLines, read line List.mem_cons_self, later]
      rfl

theorem words_of_not_meaningful {line : List Char} (skipped : isMeaningful line = false) :
    words line = some [] := by
  cases line with
  | nil => rfl
  | cons c rest =>
      have comment : c = '#' := by
        simpa [isMeaningful] using skipped
      subst comment
      rfl

/-- Skipping lines makes no difference. -/
theorem mapM_meaningful_eq (lines : List (List Char)) :
    (((lines.map Text.trimmed).filter isMeaningful).mapM words).map List.flatten =
      wordsOfLines lines := by
  induction lines with
  | nil => rfl
  | cons line lines inductionHypothesis =>
      rw [wordsOfLines, ← inductionHypothesis, List.map_cons]
      cases meaningful : isMeaningful (Text.trimmed line) with
      | false =>
          rw [List.filter_cons_of_neg (by simp [meaningful]), words_of_not_meaningful meaningful,
            nil_followedBy]
      | true =>
          rw [List.filter_cons_of_pos meaningful, List.mapM_cons]
          cases words (Text.trimmed line) with
          | none => rfl
          | some found =>
              cases ((lines.map Text.trimmed).filter isMeaningful).mapM words with
              | none => rfl
              | some later => rfl

/-- The result of a file whose words are known. -/
def asArguments : Option (List (List Char)) → Except Defect (List String)
  | some found => .ok (found.map String.ofList)
  | none => .error .openQuote

theorem asArguments_eq_ok_iff {result : Option (List (List Char))} {found : List String} :
    asArguments result = .ok found ↔
      ∃ texts, result = some texts ∧ found = texts.map String.ofList := by
  cases result <;> simp [asArguments, eq_comm]

theorem arguments_eq (content : String) :
    arguments content = asArguments (wordsOfContent content.toList) := by
  rw [wordsOfContent, ← mapM_meaningful_eq, arguments, meaningfulLines]
  cases (((content.toList.splitOn '\n').map Text.trimmed).filter isMeaningful).mapM words <;> rfl

theorem arguments_ofList (content : List Char) :
    arguments (String.ofList content) = asArguments (wordsOfContent content) := by
  rw [arguments_eq, String.toList_ofList]

/-! ## Joining contents -/

theorem wordsOfContent_join (first second : List Char) :
    wordsOfContent (first ++ '\n' :: second) =
      followedBy (wordsOfContent first) (wordsOfContent second) := by
  rw [wordsOfContent, List.splitOn_append_cons_self, wordsOfLines_append]
  rfl

theorem wordsOfContent_line {line : List Char} (oneLine : '\n' ∉ line) :
    wordsOfContent line = words (Text.trimmed line) := by
  rw [wordsOfContent, List.splitOn_eq_singleton oneLine, wordsOfLines]
  exact followedBy_nil _

/-- The lines of a file with a line end between each two. -/
def joined (lines : List (List Char)) : List Char :=
  ['\n'].intercalate lines

theorem joined_cons_cons (line next : List Char) (later : List (List Char)) :
    joined (line :: next :: later) = line ++ '\n' :: joined (next :: later) := by
  simp [joined]

theorem joined_splitOn (content : List Char) : joined (content.splitOn '\n') = content :=
  List.intercalate_splitOn '\n'

theorem subset_joined {lines : List (List Char)} {line : List Char} (member : line ∈ lines) :
    line ⊆ joined lines := by
  induction lines with
  | nil => exact nomatch member
  | cons first later inductionHypothesis =>
      cases later with
      | nil =>
          have alone : joined [first] = first := by simp [joined]
          rw [alone, List.mem_singleton.mp member]
          exact List.Subset.refl first
      | cons next later =>
          rw [joined_cons_cons]
          rcases List.mem_cons.mp member with rfl | member
          · exact List.subset_append_left _ _
          · intro c inside
            have kept := inductionHypothesis member inside
            exact List.mem_append_right _ (List.mem_cons_of_mem '\n' kept)

theorem wordsOfContent_joined_cons (line : List Char) (later : List (List Char)) :
    wordsOfContent (joined (line :: later)) =
      followedBy (wordsOfContent line) (wordsOfContent (joined later)) := by
  cases later with
  | nil =>
      have alone : joined [line] = line := by simp [joined]
      have nothing : wordsOfContent (joined []) = some [] := rfl
      rw [alone, nothing, followedBy_nil]
  | cons next later => rw [joined_cons_cons, wordsOfContent_join]

/-- Two contents joined by a line end have arguments exactly when both have, and then those of the
first come before those of the second. -/
theorem arguments_join_eq_ok_iff (first second : String) (found : List String) :
    arguments (first ++ "\n" ++ second) = .ok found ↔
      ∃ before after, arguments first = .ok before ∧ arguments second = .ok after ∧
        found = before ++ after := by
  have chars : (first ++ "\n" ++ second).toList = first.toList ++ '\n' :: second.toList := by
    simp
  rw [arguments_eq, chars, wordsOfContent_join]
  simp only [asArguments_eq_ok_iff, arguments_eq, followedBy_eq_some_iff]
  constructor
  · rintro ⟨_, ⟨before, after, read, readLater, rfl⟩, rfl⟩
    exact ⟨_, _, ⟨before, read, rfl⟩, ⟨after, readLater, rfl⟩, List.map_append⟩
  · rintro ⟨_, _, ⟨before, read, rfl⟩, ⟨after, readLater, rfl⟩, rfl⟩
    exact ⟨_, ⟨before, after, read, readLater, rfl⟩, List.map_append.symm⟩

/-! ## Blanks around contents -/

theorem words_trimmed_between {left right : List Char} (line : List Char)
    (leftBlank : Text.AllBlank left) (rightBlank : Text.AllBlank right) :
    words (Text.trimmed (left ++ line ++ right)) = words (Text.trimmed line) :=
  congrArg words (Text.trimmed_between line leftBlank rightBlank)

theorem wordsOfContent_cons_blank {c : Char} (blank : Text.isBlank c = true)
    (content : List Char) : wordsOfContent (c :: content) = wordsOfContent content := by
  by_cases ends : c = '\n'
  · subst ends
    exact (wordsOfContent_join [] content).trans (nil_followedBy _)
  · -- The blank goes to the first line, whose trimmed text it does not change.
    obtain ⟨line, later, lines⟩ := List.exists_cons_of_ne_nil (List.splitOn_ne_nil '\n' content)
    have same := words_trimmed_between line (Text.allBlank_singleton blank) Text.allBlank_nil
    rw [List.append_nil] at same
    rw [wordsOfContent, wordsOfContent, List.splitOn_cons_eq_if_modifyHead,
      if_neg (by simpa using ends), lines, List.modifyHead_cons, wordsOfLines, wordsOfLines]
    exact congrArg (followedBy · (wordsOfLines later)) same

/-- A blank at the end goes to the last line.  The induction is on the content, with the part of the
current line before it general. -/
theorem wordsOfContent_concat_blank {c : Char} (blank : Text.isBlank c = true)
    {line : List Char} (oneLine : '\n' ∉ line) (content : List Char) :
    wordsOfContent (line ++ (content ++ [c])) = wordsOfContent (line ++ content) := by
  induction content generalizing line with
  | nil =>
      by_cases ends : c = '\n'
      · subst ends
        rw [List.nil_append, List.append_nil, wordsOfContent_join]
        exact followedBy_nil _
      · have longer : '\n' ∉ line ++ [c] := by
          simp only [List.mem_append, List.mem_singleton, not_or]
          exact ⟨oneLine, Ne.symm ends⟩
        have same := words_trimmed_between line Text.allBlank_nil (Text.allBlank_singleton blank)
        rw [List.nil_append, List.append_nil, wordsOfContent_line longer,
          wordsOfContent_line oneLine]
        exact same
  | cons d content inductionHypothesis =>
      rw [List.cons_append]
      by_cases ends : d = '\n'
      · subst ends
        have atStart : '\n' ∉ ([] : List Char) := List.not_mem_nil
        have rest := inductionHypothesis atStart
        rw [List.nil_append, List.nil_append] at rest
        rw [wordsOfContent_join, wordsOfContent_join, rest]
      · have longer : '\n' ∉ line ++ [d] := by
          simp only [List.mem_append, List.mem_singleton, not_or]
          exact ⟨oneLine, Ne.symm ends⟩
        have rest := inductionHypothesis longer
        simpa using rest

theorem wordsOfContent_append_blank {right : List Char} (rightBlank : Text.AllBlank right)
    (content : List Char) : wordsOfContent (content ++ right) = wordsOfContent content := by
  induction right generalizing content with
  | nil => rw [List.append_nil]
  | cons c right inductionHypothesis =>
      have atStart : '\n' ∉ ([] : List Char) := List.not_mem_nil
      calc
        wordsOfContent (content ++ c :: right) = wordsOfContent ((content ++ [c]) ++ right) := by
          rw [List.append_assoc, List.singleton_append]
        _ = wordsOfContent (content ++ [c]) :=
          inductionHypothesis (fun d member => rightBlank d (List.mem_cons_of_mem c member)) _
        _ = wordsOfContent content :=
          wordsOfContent_concat_blank (rightBlank c List.mem_cons_self) atStart content

/-- Blanks around a content are not seen, even if there are line ends among them. -/
theorem wordsOfContent_between {left right : List Char} (content : List Char)
    (leftBlank : Text.AllBlank left) (rightBlank : Text.AllBlank right) :
    wordsOfContent (left ++ content ++ right) = wordsOfContent content := by
  rw [wordsOfContent_append_blank rightBlank]
  induction left with
  | nil => rfl
  | cons c left inductionHypothesis =>
      rw [List.cons_append, wordsOfContent_cons_blank (leftBlank c List.mem_cons_self)]
      exact inductionHypothesis fun d member => leftBlank d (List.mem_cons_of_mem c member)

/-! ## Edits that change nothing -/

/-- A line without arguments: blanks only, or blanks and a comment. -/
inductive Ignored : List Char → Prop
  | blank {line : List Char} (blank : Text.AllBlank line) : Ignored line
  | comment {left : List Char} (leftBlank : Text.AllBlank left) (remark : List Char) :
      Ignored (left ++ '#' :: remark)

theorem Ignored.words_eq {line : List Char} (ignored : Ignored line) :
    words (Text.trimmed line) = some [] := by
  cases ignored with
  | blank blank =>
      have nothing := words_trimmed_between [] blank Text.allBlank_nil
      rw [List.append_nil, List.append_nil] at nothing
      exact nothing
  | @comment left leftBlank remark =>
      have same := words_trimmed_between ('#' :: remark) leftBlank Text.allBlank_nil
      rw [List.append_nil] at same
      rw [same, Text.trimmed_cons_of_visible (by decide)]
      rfl

/-- The lines of a file after edits: lines without arguments were put in anywhere, and blanks were
put around lines. -/
inductive Retouched : List (List Char) → List (List Char) → Prop
  | nil : Retouched [] []
  | inserted {lines edited : List (List Char)} {line : List Char} (later : Retouched lines edited)
      (oneLine : '\n' ∉ line) (ignored : Ignored line) : Retouched lines (line :: edited)
  | padded {lines edited : List (List Char)} {left right : List Char} (line : List Char)
      (later : Retouched lines edited) (leftBlank : Text.AllBlank left)
      (rightBlank : Text.AllBlank right) :
      Retouched (line :: lines) ((left ++ line ++ right) :: edited)

theorem Retouched.wordsOfContent_eq {lines edited : List (List Char)}
    (retouched : Retouched lines edited) :
    wordsOfContent (joined edited) = wordsOfContent (joined lines) := by
  induction retouched with
  | nil => rfl
  | inserted later oneLine ignored inductionHypothesis =>
      rw [wordsOfContent_joined_cons, wordsOfContent_line oneLine, ignored.words_eq, nil_followedBy]
      exact inductionHypothesis
  | padded line later leftBlank rightBlank inductionHypothesis =>
      rw [wordsOfContent_joined_cons, wordsOfContent_joined_cons,
        wordsOfContent_between line leftBlank rightBlank, inductionHypothesis]

/-- A content with a carriage return before every line end. -/
def withReturns (content : List Char) : List Char :=
  content.flatMap fun c => if c = '\n' then ['\r', '\n'] else [c]

theorem wordsOfContent_withReturns (line content : List Char) :
    wordsOfContent (line ++ withReturns content) = wordsOfContent (line ++ content) := by
  induction content generalizing line with
  | nil => rfl
  | cons c content inductionHypothesis =>
      by_cases ends : c = '\n'
      · subst ends
        have split : line ++ withReturns ('\n' :: content) =
            (line ++ ['\r']) ++ '\n' :: ([] ++ withReturns content) := by
          simp [withReturns]
        have blank : Text.AllBlank ['\r'] := by decide
        have returned := wordsOfContent_between line Text.allBlank_nil blank
        rw [List.nil_append] at returned
        rw [split, wordsOfContent_join, returned, inductionHypothesis, wordsOfContent_join,
          List.nil_append]
      · have kept : line ++ withReturns (c :: content) =
            (line ++ [c]) ++ withReturns content := by
          simp [withReturns, ends]
        rw [kept, inductionHypothesis]
        simp

/-! ## One line that spoils the file -/

theorem wordsOfLines_eq_none_iff (lines : List (List Char)) :
    wordsOfLines lines = none ↔ ∃ line ∈ lines, Unclosed (Text.trimmed line) := by
  induction lines with
  | nil => simp [wordsOfLines]
  | cons line lines inductionHypothesis =>
      rw [wordsOfLines, followedBy_eq_none_iff, words_eq_none_iff, inductionHypothesis]
      simp

/-- A file has no arguments to give exactly when one of its lines has an open quote. -/
theorem arguments_eq_error_iff (content : String) :
    arguments content = .error .openQuote ↔
      ∃ line ∈ content.toList.splitOn '\n', Unclosed (Text.trimmed line) := by
  rw [arguments_eq, wordsOfContent, ← wordsOfLines_eq_none_iff]
  cases wordsOfLines (content.toList.splitOn '\n') <;> simp [asArguments]

theorem load_of_defect (path : Bytes) {content : String} {defect : Defect}
    (broken : arguments content = .error defect) :
    load path (.ok content) = { log := [warning "ignoring" path defect.message] } := by
  rw [load, broken]

theorem locate_of_defect {environment : Environment} {tree : Storage.FileTree} {content : String}
    {defect : Defect} (held : tree.read (environment.settingsFile tree.isFile) = .ok content)
    (broken : arguments content = .error defect) :
    (locate environment tree).2 =
      { log := [warning "ignoring" (environment.settingsFile tree.isFile) defect.message] } := by
  simp only [locate, held]
  exact load_of_defect _ broken

/-- A file is read line by line, and as a whole or not at all.  Contents can be joined at a line
end.  Blank lines, comments, blanks around lines and carriage returns at their ends make no
difference.  An open quote in any line leaves the whole file without arguments, and then the program
takes none from it and logs one warning. -/
theorem arguments_line_by_line :
    (∀ (first second : String) (found : List String),
      arguments (first ++ "\n" ++ second) = .ok found ↔
        ∃ before after, arguments first = .ok before ∧ arguments second = .ok after ∧
          found = before ++ after) ∧
    (∀ (content : String) (edited : List (List Char)),
      Retouched (content.toList.splitOn '\n') edited →
      arguments (String.ofList (joined edited)) = arguments content) ∧
    (∀ content : String,
      arguments (String.ofList (withReturns content.toList)) = arguments content) ∧
    (∀ content : String, arguments content = .error .openQuote ↔
      ∃ line ∈ content.toList.splitOn '\n', Unclosed (Text.trimmed line)) ∧
    (∀ (environment : Environment) (tree : Storage.FileTree) (content : String),
      tree.read (environment.settingsFile tree.isFile) = .ok content →
      (∃ line ∈ content.toList.splitOn '\n', Unclosed (Text.trimmed line)) →
      (locate environment tree).2 =
        ⟨[], [warning "ignoring" (environment.settingsFile tree.isFile)
          "missing closing quote"]⟩) := by
  refine ⟨arguments_join_eq_ok_iff, ?_, ?_, arguments_eq_error_iff, ?_⟩
  · intro content edited retouched
    have same := retouched.wordsOfContent_eq
    rw [joined_splitOn] at same
    rw [arguments_ofList, arguments_eq, same]
  · intro content
    have same := wordsOfContent_withReturns [] content.toList
    rw [List.nil_append, List.nil_append] at same
    rw [arguments_ofList, arguments_eq, same]
  · intro environment tree content held unclosed
    have broken := (arguments_eq_error_iff content).mpr unclosed
    exact locate_of_defect held broken

/-- An apostrophe in a comment is no quote.  One before a prompt costs also the flag on the line
before it. -/
theorem remark_kept_open_prompt_refused :
    arguments (String.ofList (joined ["\t# don't".toList, "".toList, " --limit 5\r".toList])) =
      arguments "--limit 5" ∧
    (locate { home := [] } ((Storage.FileTree.empty []).write
        (Text.Utf8.encode ".config/factorial/config")
        (Text.Utf8.encode "--digits\n--prompt 'n = "))).2 =
      ⟨[], [⟨.warn, .settings,
        "ignoring config file .config/factorial/config: missing closing quote"⟩]⟩ := by
  have remark : Ignored "\t# don't".toList := .comment (by decide : Text.AllBlank ['\t']) _
  have empty : Ignored "".toList := .blank (by decide)
  have edited : Retouched ("--limit 5".toList.splitOn '\n')
      ["\t# don't".toList, "".toList, " --limit 5\r".toList] :=
    .inserted (.inserted (.padded "--limit 5".toList .nil (by decide : Text.AllBlank [' '])
      (by decide : Text.AllBlank ['\r'])) (by decide) empty) (by decide) remark
  have opened : Unclosed (Text.trimmed "--prompt 'n = ".toList) := (words_eq_none_iff _).mp rfl
  exact ⟨arguments_line_by_line.2.1 "--limit 5" _ edited,
    arguments_line_by_line.2.2.2.2 { home := [] } _ "--digits\n--prompt 'n = " rfl
      ⟨_, by decide, opened⟩⟩

end Settings
end ExactFactorial
