import ExactFactorial.Proofs.CommandLine.Reading
import ExactFactorial.Proofs.Text.Boundaries

namespace ExactFactorial
namespace CommandLine

open Text.Utf8 (Cut decode? encode isText lossy)

/-!
# What values are made of

Values are cut out of arguments at certain bytes: behind hyphens, behind a letter, behind equal
signs.  Each of these is a character by itself, so that a cut never goes through a character, and a
part of a text is a text again.

The state of the reading is therefore tied to the arguments by where its values come from.  Every
step keeps that tie, and where the arguments are texts no step stops because something is none.
-/

/-! ## Parts of an argument -/

theorem cut_bare (argument : Bytes) : Cut argument (bare argument) := by
  apply Cut.dropWhile
  intro byte dropped
  rw [beq_iff_eq.mp dropped]
  decide

theorem cut_stripped (value : Bytes) : Cut value (stripped value) := by
  apply Cut.dropWhile
  intro byte dropped
  rw [beq_iff_eq.mp dropped]
  decide

/-- A name takes everything up to an equal sign, and the value everything behind it. -/
theorem splitName_cases (body : Bytes) :
    splitName body = (body, none) ∨
      ∃ name value, body = name ++ equalSign :: value ∧ splitName body = (name, some value) := by
  have joined : body.takeWhile (· != equalSign) ++ body.dropWhile (· != equalSign) = body :=
    List.takeWhile_append_dropWhile
  rw [splitName]
  cases after : body.dropWhile (· != equalSign) with
  | nil =>
      rw [after, List.append_nil] at joined
      rw [joined]
      exact .inl rfl
  | cons sign value =>
      have found : sign = equalSign := by
        have stopped := List.head?_dropWhile_not (· != equalSign) body
        rw [after] at stopped
        simpa using stopped
      rw [after, found] at joined
      exact .inr ⟨_, value, joined.symm, rfl⟩

/-- Every letter with a meaning is a character by itself. -/
theorem toNat_lt_of_ofLetter? {letter : UInt8} {action : Action}
    (known : Action.ofLetter? letter = some action) : letter.toNat < 0x80 := by
  by_cases meant : letter ∈ ['d', 'l', 'p', 'h', 'V'].map Char.toUInt8
  · simp only [List.map_cons, List.map_nil, List.mem_cons, List.not_mem_nil, or_false] at meant
    rcases meant with rfl | rfl | rfl | rfl | rfl <;> decide
  · simp only [List.map_cons, List.map_nil, List.mem_cons, List.not_mem_nil, or_false,
      not_or] at meant
    rcases meant with ⟨notD, notL, notP, notH, notV⟩
    rw [Action.ofLetter?, if_neg notD, if_neg notL, if_neg notP, if_neg notH, if_neg notV] at known
    cases known

/-! ## Where the values of a state come from -/

/-- A value is a part of one of the arguments. -/
def From (sources : List Bytes) (value : Bytes) : Prop :=
  ∃ argument ∈ sources, Cut argument value

theorem From.of_mem {sources : List Bytes} {argument : Bytes} (member : argument ∈ sources) :
    From sources argument :=
  ⟨argument, member, .whole argument⟩

theorem From.cut {sources : List Bytes} {value part : Bytes} (drawn : From sources value)
    (cut : Cut value part) : From sources part := by
  rcases drawn with ⟨argument, member, first⟩
  exact ⟨argument, member, first.trans cut⟩

theorem From.isText {sources : List Bytes} {value : Bytes} (drawn : From sources value)
    (texts : ∀ argument ∈ sources, isText argument = true) : isText value = true := by
  rcases drawn with ⟨argument, member, cut⟩
  exact cut.isText (texts argument member)

/-- All values of a state come from the arguments, and its number is one of them. -/
structure Drawn (sources : List Bytes) (progress : Progress) : Prop where
  values : ∀ setting, ∀ value ∈ (progress.settings setting).values, From sources value
  number : ∀ number, progress.number = some number → number ∈ sources

/-- The reading goes on with such a state, or stops, but not because something is no text. -/
def Proceeds (sources : List Bytes) : Except Stop Progress → Prop
  | .ok next => Drawn sources next
  | .error stop => stop ≠ .undecodable

theorem proceeds_refuse (sources : List Bytes) (progress : Progress) (cause : Misuse) :
    Proceeds sources (progress.refuse cause) :=
  Stop.noConfusion

namespace Drawn

variable {sources : List Bytes} {progress : Progress}

theorem initial (sources : List Bytes) : Drawn sources {} where
  values := fun _ _ member => nomatch member
  number := fun _ given => nomatch given

/-- The tie is to two parts of the state only. -/
theorem congr (drawn : Drawn sources progress) {next : Progress}
    (settings : next.settings = progress.settings) (number : next.number = progress.number) :
    Drawn sources next where
  values := by
    rw [settings]
    exact drawn.values
  number := by
    rw [number]
    exact drawn.number

theorem assign (drawn : Drawn sources progress) {next : Progress} {setting : Setting}
    {given : Given} (values : ∀ value ∈ given.values, From sources value)
    (settings : next.settings = CommandLine.assign progress.settings setting given)
    (number : next.number = progress.number) : Drawn sources next where
  values := by
    intro other
    rw [settings]
    by_cases same : other = setting
    · rw [same, assign_same]
      exact values
    · rw [assign_other _ _ same]
      exact drawn.values other
  number := by
    rw [number]
    exact drawn.number

/-! ## One argument -/

theorem settle (drawn : Drawn sources progress) : Drawn sources progress.settle := by
  rcases latest : progress.latest with _ | flag | setting
  · rw [Progress.settle_of_none latest]
    exact drawn
  · rw [Progress.settle_of_flag latest]
    exact drawn.congr rfl rfl
  · rw [Progress.settle_of_setting latest]
    refine drawn.assign ?_ rfl rfl
    intro value member
    apply drawn.values setting
    rw [Given.settle] at member
    split at member
    · exact List.mem_of_mem_tail member
    · exact member

theorem raise (drawn : Drawn sources progress) (flag : Flag) :
    Drawn sources (progress.raise flag) :=
  drawn.congr rfl rfl

theorem take (drawn : Drawn sources progress) (setting : Setting) {value : Option Bytes}
    (origin : ∀ bytes, value = some bytes → From sources bytes) :
    Drawn sources (progress.take setting value) := by
  rw [Progress.take_eq_give]
  refine drawn.assign ?_ rfl rfl
  intro bytes member
  rcases List.mem_append.mp member with before | added
  · exact drawn.values setting bytes before
  · rw [Option.mem_toList, Option.map_eq_some_iff] at added
    rcases added with ⟨written, given, rfl⟩
    exact (origin written given).cut (cut_stripped written)

theorem supply (drawn : Drawn sources progress) (setting : Setting) {value : Bytes}
    (origin : From sources value) : Drawn sources (progress.supply setting value) := by
  refine drawn.assign ?_ rfl rfl
  intro bytes member
  rcases List.mem_append.mp member with before | added
  · exact drawn.values setting bytes before
  · rw [List.mem_singleton.mp added]
    exact origin

theorem place (drawn : Drawn sources progress) {argument : Bytes} (member : argument ∈ sources) :
    Proceeds sources (progress.place argument) := by
  rw [Progress.place]
  split
  · exact proceeds_refuse sources progress _
  · refine ⟨drawn.settle.values, ?_⟩
    intro number given
    rw [← Option.some.inj given]
    exact member

/-- Only the name has to be a text, and it is one if all of the argument is. -/
theorem long (drawn : Drawn sources progress) {body : Bytes} (origin : From sources body)
    (text : isText body = true) : Proceeds sources (progress.long body) := by
  have parts : ∃ name value, splitName body = (name, value) ∧ isText name = true ∧
      ∀ bytes, value = some bytes → From sources bytes := by
    rcases splitName_cases body with bare | ⟨name, value, joined, split⟩
    · exact ⟨body, none, bare, text, fun _ nothing => nomatch nothing⟩
    · have cut : Cut body value := by
        rw [joined]
        exact .after name value (by decide)
      rw [joined, Text.Utf8.isText_append_single name value (by decide), Bool.and_eq_true] at text
      refine ⟨name, some value, split, text.1, ?_⟩
      intro bytes same
      rw [← Option.some.inj same]
      exact origin.cut cut
  rcases parts with ⟨name, value, split, named, valued⟩
  have spelled : decode? name = some (lossy name) := if_pos named
  simp only [Progress.long, split, spelled]
  cases Action.ofName? (lossy name) with
  | none => exact proceeds_refuse sources progress _
  | some action =>
      cases action with
      | flag flag => exact drawn.raise flag
      | setting setting => exact drawn.take setting valued
      | help => exact Stop.noConfusion
      | version => exact Stop.noConfusion

theorem letters (drawn : Drawn sources progress) {body : Bytes} (origin : From sources body) :
    Proceeds sources (progress.letters body) := by
  induction body generalizing progress with
  | nil => exact drawn
  | cons letter rest inductionHypothesis =>
      rw [Progress.letters]
      cases known : Action.ofLetter? letter with
      | none => exact proceeds_refuse sources progress _
      | some action =>
          have behind : From sources rest :=
            origin.cut (.after [] rest (toNat_lt_of_ofLetter? known))
          cases action with
          | flag flag => exact inductionHypothesis (drawn.raise flag) behind
          | setting setting =>
              apply drawn.take setting
              intro bytes given
              split at given
              · cases given
              · rw [← Option.some.inj given]
                exact behind
          | help => exact Stop.noConfusion
          | version => exact Stop.noConfusion

theorem switch (drawn : Drawn sources progress) {argument : Bytes} (member : argument ∈ sources)
    (text : isText argument = true) : Proceeds sources (progress.switch argument) := by
  have origin : From sources (bare argument) := (From.of_mem member).cut (cut_bare argument)
  rw [Progress.switch]
  -- A long name, a number that came in the place of a switch, a number with a sign, and letters.
  split
  · exact drawn.long origin ((cut_bare argument).isText text)
  split
  · exact drawn.place member
  split
  · have free : Drawn sources { progress with expectation := .free } := drawn.congr rfl rfl
    exact free.place member
  · exact drawn.letters origin

theorem step (drawn : Drawn sources progress) {argument : Bytes} (member : argument ∈ sources)
    (text : isText argument = true) : Proceeds sources (progress.step argument) := by
  rw [Progress.step]
  split
  · exact drawn.place member
  split
  · exact drawn.congr rfl rfl
  split
  · exact drawn.settle.switch member text
  split
  · exact drawn.supply _ (From.of_mem member)
  · exact drawn.place member
  · exact drawn.place member

end Drawn

/-! ## All arguments -/

theorem Stop.amid_ne_undecodable {stop : Stop} {later : List Bytes}
    (texts : ∀ argument ∈ later, isText argument = true) (named : stop ≠ .undecodable) :
    stop.amid later ≠ .undecodable := by
  have all : later.all isText = true := List.all_eq_true.mpr texts
  unfold Stop.amid
  split
  · rw [if_pos all]
    exact Stop.noConfusion
  · exact named

/-- From one argument to all of them. -/
theorem scan_proceeds {sources : List Bytes} {progress : Progress} {arguments : List Bytes}
    (drawn : Drawn sources progress) (within : ∀ argument ∈ arguments, argument ∈ sources)
    (texts : ∀ argument ∈ arguments, isText argument = true) :
    Proceeds sources (scan progress arguments) := by
  induction arguments generalizing progress with
  | nil => exact drawn
  | cons argument later inductionHypothesis =>
      have laterWithin : ∀ other ∈ later, other ∈ sources := fun other member =>
        within other (List.mem_cons_of_mem argument member)
      have laterTexts : ∀ other ∈ later, isText other = true := fun other member =>
        texts other (List.mem_cons_of_mem argument member)
      have stepped := drawn.step (within argument List.mem_cons_self)
        (texts argument List.mem_cons_self)
      rw [scan]
      cases result : progress.step argument with
      | ok next =>
          rw [result] at stepped
          exact inductionHypothesis stepped laterWithin laterTexts
      | error stop =>
          rw [result] at stepped
          exact Stop.amid_ne_undecodable laterTexts stepped

/-! ## The request at the end -/

namespace Progress

theorem withPrompt_number (progress : Progress) :
    progress.withPrompt.number = progress.number := by
  unfold withPrompt
  simp only []
  split <;> rfl

/-- The prompt is one of the values it was given, or else the default text. -/
theorem promptBytes_withPrompt (progress : Progress) :
    progress.withPrompt.promptBytes = encode defaultPrompt ∨
      progress.withPrompt.promptBytes ∈ (progress.settings .prompt).values := by
  rw [withPrompt]
  split
  · simp only [promptBytes, assign_same]
    exact .inl rfl
  · rename_i something
    rw [promptBytes]
    cases given : (progress.settings .prompt).values with
    | nil =>
        rw [given] at something
        exact absurd rfl something
    | cons value rest => exact .inr List.mem_cons_self

/-- Where prompt and number are texts, they come out as these texts, if nothing is misused. -/
theorem request_of_texts {progress : Progress} (prompt : isText progress.promptBytes = true)
    (number : ∀ bytes, progress.number = some bytes → isText bytes = true) :
    (∃ cause, progress.request = progress.refuse cause) ∨
      ∃ request, progress.request = .ok request ∧
        request.prompt = lossy progress.promptBytes ∧
        request.number = progress.number.map lossy := by
  have spelled : decode? progress.promptBytes = some (lossy progress.promptBytes) := if_pos prompt
  unfold Progress.request
  cases progress.misuse? with
  | some cause => exact .inl ⟨cause, rfl⟩
  | none =>
      simp only [spelled]
      cases given : progress.number with
      | none => exact .inr ⟨_, rfl, rfl, rfl⟩
      | some bytes =>
          have read : decode? bytes = some (lossy bytes) := if_pos (number bytes given)
          simp only [Option.map_some, read]
          exact .inr ⟨_, rfl, rfl, rfl⟩

end Progress

/-- The prompt of a request is the usual one or a part of an argument, and its number is a whole
argument. -/
structure TakenFrom (sources : List Bytes) (request : Request) : Prop where
  prompt : request.prompt = defaultPrompt ∨
    ∃ value, From sources value ∧ request.prompt = lossy value
  number : ∀ number, request.number = some number → ∃ argument ∈ sources, number = lossy argument

/-- At the end a state that comes from texts is refused for a misuse, or it gives a request. -/
theorem Drawn.request {sources : List Bytes} {progress : Progress}
    (drawn : Drawn sources progress) (texts : ∀ argument ∈ sources, isText argument = true) :
    (∃ cause, progress.withPrompt.request = progress.withPrompt.refuse cause) ∨
      ∃ request, progress.withPrompt.request = .ok request ∧ TakenFrom sources request := by
  have origin : progress.withPrompt.promptBytes = encode defaultPrompt ∨
      From sources progress.withPrompt.promptBytes :=
    progress.promptBytes_withPrompt.imp_right (drawn.values .prompt _)
  have prompt : isText progress.withPrompt.promptBytes = true := by
    rcases origin with usual | part
    · rw [usual]
      exact Text.Utf8.isText_encode defaultPrompt
    · exact part.isText texts
  have placed : ∀ bytes, progress.withPrompt.number = some bytes → bytes ∈ sources := by
    rw [Progress.withPrompt_number]
    exact drawn.number
  rcases Progress.request_of_texts prompt fun bytes number =>
    texts bytes (placed bytes number) with refused | ⟨request, asked, shown, number⟩
  · exact .inl refused
  · refine .inr ⟨request, asked, ?_, ?_⟩
    · rcases origin with usual | part
      · rw [usual, Text.Utf8.lossy_encode] at shown
        exact .inl shown
      · exact .inr ⟨_, part, shown⟩
    · intro text found
      rw [number, Option.map_eq_some_iff] at found
      rcases found with ⟨bytes, held, rfl⟩
      exact ⟨bytes, placed bytes held, rfl⟩

/-- Arguments that are texts are read or refused, but never found undecodable. -/
theorem read_of_texts {given : List Bytes}
    (texts : ∀ argument ∈ given.tail, isText argument = true) :
    (∃ stop, read given = .error stop ∧ stop ≠ .undecodable) ∨
      ∃ request, read given = .ok request ∧ TakenFrom given.tail request := by
  have proceeds := scan_proceeds (Drawn.initial given.tail) (fun _ member => member) texts
  rw [read]
  cases result : scan {} given.tail with
  | error stop =>
      rw [result] at proceeds
      exact .inl ⟨stop, rfl, proceeds⟩
  | ok last =>
      rw [result] at proceeds
      have drawn : Drawn given.tail last.settle := Drawn.settle proceeds
      rcases drawn.request texts with ⟨cause, refused⟩ | accepted
      · exact .inl ⟨_, refused, Stop.noConfusion⟩
      · exact .inr accepted

theorem read_ne_undecodable {arguments : List Bytes}
    (texts : ∀ argument ∈ arguments.tail, isText argument = true) :
    read arguments ≠ .error .undecodable := by
  rcases read_of_texts texts with ⟨stop, stopped, named⟩ | ⟨request, asked, _⟩
  · rw [stopped]
    intro same
    exact named (Except.error.inj same)
  · rw [asked]
    exact fun same => nomatch same

end CommandLine
end ExactFactorial
