import ExactFactorial.Proofs.CommandLine.Reading

namespace ExactFactorial
namespace CommandLine

/-!
# What entries mean

At the end of the reading every switch is checked, and the prompt gets its default text.  Here the
checks are taken out of the state and put on the entries, so that a command line is read exactly
when its arguments have entries with a meaning.
-/

/-- The ceiling that a value of the limit spells. -/
def limitValue? (value : Bytes) : Option Nat :=
  (Numeral.readUnsigned (Text.Utf8.lossy value).toList).toOption

/-- The entries ask for this request: nothing counts twice, the limit has a value if it was used at
all, and what has to be a number or a text is one. -/
structure Means (entries : List Entry) (request : Request) : Prop where
  flagsOnce : ∀ flag, tally flag entries ≤ 1
  settingsOnce : ∀ setting, (gathered setting entries).uses ≤ 1
  limitGiven : (gathered .limit entries).values = [] → (gathered .limit entries).uses = 0
  showPath : request.showPath = (tally .showPath entries != 0)
  digits : request.digits = (tally .digits entries != 0)
  limit : (gathered .limit entries).values.map limitValue? = request.limit.toList.map some
  prompt : Text.Utf8.decode?
      ((gathered .prompt entries).values.headD (Text.Utf8.encode defaultPrompt)) =
    some request.prompt
  number : (numbers entries).map Text.Utf8.decode? = request.number.toList.map some

theorem Means.length_numbers_le {entries : List Entry} {request : Request}
    (means : Means entries request) : (numbers entries).length ≤ 1 := by
  have same := congrArg List.length means.number
  rw [List.length_map, List.length_map] at same
  rw [same]
  cases request.number with
  | none => exact Nat.zero_le 1
  | some text => exact Nat.le_refl 1

namespace Progress

theorem limitFlaw?_eq_none_iff (value : Bytes) :
    limitFlaw? value = none ↔ ∃ ceiling, limitValue? value = some ceiling := by
  unfold limitFlaw? limitValue?
  cases Numeral.readUnsigned (Text.Utf8.lossy value).toList with
  | ok ceiling => exact ⟨fun _ => ⟨ceiling, rfl⟩, fun _ => rfl⟩
  | error flaw =>
      constructor
      · intro none
        cases none
      · rintro ⟨ceiling, read⟩
        cases read

theorem fault?_flag_eq_none_iff (progress : Progress) (flag : Flag) :
    progress.fault? (.flag flag) = none ↔ progress.flags flag ≤ 1 := by
  rw [fault?, ite_eq_right_iff, ← Nat.not_lt]
  exact ⟨fun never twice => Option.some_ne_none _ (never twice),
    fun once twice => absurd twice once⟩

theorem fault?_setting_eq_none_iff (progress : Progress) (setting : Setting) :
    progress.fault? (.setting setting) = none ↔
      (progress.settings setting).uses ≤ 1 ∧
      ((progress.settings setting).values = [] → (progress.settings setting).uses = 0) ∧
      (setting = .limit →
        ∀ value ∈ (progress.settings setting).values, limitFlaw? value = none) := by
  rw [fault?]
  rcases progress.settings setting with ⟨uses, values⟩
  cases values with
  | nil =>
      cases uses with
      | zero => simp [Given.isPresent]
      | succ fewer => simp [Given.isPresent]
  | cons value values =>
      have present : Given.isPresent ⟨uses, value :: values⟩ = true := by
        simp [Given.isPresent]
      have checked :
          (if setting = .limit then (value :: values).findSome? limitFlaw? else none) = none ↔
            (setting = .limit → ∀ bytes ∈ value :: values, limitFlaw? bytes = none) := by
        rw [ite_eq_right_iff, List.findSome?_eq_none_iff]
      simp only [present, List.isEmpty_cons, Bool.not_true, Bool.false_eq_true, if_false,
        reduceCtorEq, false_implies, true_and, ← checked]
      cases if setting = .limit then (value :: values).findSome? limitFlaw? else none with
      | some flaw => simp
      | none => simp

/-- Nothing is wrong with a state at the end if nothing is wrong with a switch, and a setting whose
value is awaited has one. -/
theorem misuse?_eq_none_iff (progress : Progress)
    (awaited : ∀ setting, progress.expectation = .value setting →
      (progress.settings setting).values = [] → (progress.settings setting).uses ≠ 0) :
    progress.misuse? = none ↔
      (∀ flag, progress.fault? (.flag flag) = none) ∧
      ∀ setting, progress.fault? (.setting setting) = none := by
  rw [misuse?, Option.or_eq_none_iff, List.findSome?_eq_none_iff]
  constructor
  · rintro ⟨_, sound⟩
    exact ⟨fun flag => sound _ (by cases flag <;> decide),
      fun setting => sound _ (by cases setting <;> decide)⟩
  · rintro ⟨flags, settings⟩
    refine ⟨?_, ?_⟩
    · unfold starved?
      split
      · rename_i setting waits
        rw [ite_eq_right_iff, List.isEmpty_iff]
        intro nothing
        have unused := ((fault?_setting_eq_none_iff progress setting).mp (settings setting)).2.1
        exact absurd (unused nothing) (awaited setting waits nothing)
      · rfl
      · rfl
    · intro switch _
      cases switch with
      | flag flag => exact flags flag
      | setting setting => exact settings setting

theorem request_eq_ok_iff (progress : Progress) (request : Request) :
    progress.request = .ok request ↔
      progress.misuse? = none ∧ request.showPath = (progress.flags .showPath != 0) ∧
      request.digits = (progress.flags .digits != 0) ∧ request.limit = progress.limit? ∧
      Text.Utf8.decode? progress.promptBytes = some request.prompt ∧
      progress.number.map Text.Utf8.decode? = request.number.map some := by
  unfold Progress.request
  cases progress.misuse? with
  | some cause => simp [refuse]
  | none =>
      rcases request with ⟨showPath, digits, limit, prompt, number⟩
      cases Text.Utf8.decode? progress.promptBytes with
      | none => simp
      | some text =>
          cases progress.number.map Text.Utf8.decode? with
          | none => cases number <;> simp [eq_comm]
          | some decoded => cases decoded <;> cases number <;> simp [eq_comm]

/-- The default text makes up for a prompt without a value, and nothing else changes. -/
theorem withPrompt_eq {progress : Progress}
    (single : (progress.settings .prompt).values.length ≤ 1) :
    progress.withPrompt =
      { progress with
        settings := assign progress.settings .prompt
          ⟨(progress.settings .prompt).uses,
            [(progress.settings .prompt).values.headD (Text.Utf8.encode defaultPrompt)]⟩ } := by
  rw [withPrompt]
  rcases given : progress.settings .prompt with ⟨uses, _ | ⟨value, rest⟩⟩
  · rfl
  · have nothing : rest = [] := by
      rw [given, List.length_cons] at single
      exact List.eq_nil_of_length_eq_zero (by omega)
    rw [nothing] at given
    rw [List.headD_cons, ← given, assign_eq_self]
    rfl

end Progress

theorem map_eq_some_iff_of_length_le {α β : Type} (f : α → Option β) {values : List α}
    (single : values.length ≤ 1) (result : Option β) :
    values.map f = result.toList.map some ↔
      (∀ value ∈ values, ∃ read, f value = some read) ∧ result = values.head?.bind f := by
  match values with
  | [] => cases result <;> simp
  | [value] =>
      cases read : f value with
      | none => cases result <;> simp [read]
      | some spelled => cases result <;> simp [read, eq_comm]
  | _ :: _ :: _ =>
      rw [List.length_cons, List.length_cons] at single
      omega

/-- The state at the very end, when the latest switch is settled and the prompt has a text. -/
structure Ends (progress : Progress) (entries : List Entry) : Prop where
  flags : ∀ flag, progress.flags flag = tally flag entries
  limit : progress.settings .limit = gathered .limit entries
  prompt : progress.settings .prompt =
    ⟨(gathered .prompt entries).uses,
      [(gathered .prompt entries).values.headD (Text.Utf8.encode defaultPrompt)]⟩
  number : progress.number.toList = numbers entries
  awaited : ∀ setting, progress.expectation = .value setting →
    (progress.settings setting).values = [] → (progress.settings setting).uses ≠ 0

theorem Holds.ends {progress : Progress} {entries : List Entry} (holds : Holds progress entries) :
    Ends progress.settle.withPrompt entries := by
  have single := length_gathered_le .prompt entries
  rw [← holds.settings] at single
  have last := Progress.withPrompt_eq single
  have limit : progress.settle.withPrompt.settings .limit = gathered .limit entries := by
    rw [last, ← holds.settings]
    rfl
  have prompt : progress.settle.withPrompt.settings .prompt =
      ⟨(gathered .prompt entries).uses,
        [(gathered .prompt entries).values.headD (Text.Utf8.encode defaultPrompt)]⟩ := by
    rw [last, ← holds.settings]
    rfl
  refine ⟨?_, limit, prompt, ?_, ?_⟩
  · rw [last]
    exact holds.flags
  · rw [last, ← holds.number]
    exact congrArg Option.toList progress.settle_number
  · intro setting waits nothing
    cases setting with
    | limit =>
        rw [limit]
        rw [last] at waits
        exact holds.awaited .limit (progress.settle_expectation.symm.trans waits)
    | prompt =>
        rw [prompt] at nothing
        cases nothing

namespace Ends

variable {progress : Progress} {entries : List Entry}

theorem limit?_eq (ends : Ends progress entries) :
    progress.limit? = (gathered .limit entries).values.head?.bind limitValue? := by
  rw [Progress.limit?, ends.limit]
  rfl

theorem promptBytes_eq (ends : Ends progress entries) :
    progress.promptBytes =
      (gathered .prompt entries).values.headD (Text.Utf8.encode defaultPrompt) := by
  rw [Progress.promptBytes, ends.prompt]
  rfl

theorem decoded_number_iff (ends : Ends progress entries) (number : Option String) :
    progress.number.map Text.Utf8.decode? = number.map some ↔
      (numbers entries).map Text.Utf8.decode? = number.toList.map some := by
  rw [← ends.number]
  cases progress.number <;> cases number <;> simp

/-- Nothing is wrong at the end if nothing counts twice and the limit has a value that is one. -/
theorem misuse?_eq_none_iff (ends : Ends progress entries) :
    progress.misuse? = none ↔
      (∀ flag, tally flag entries ≤ 1) ∧ (∀ setting, (gathered setting entries).uses ≤ 1) ∧
      ((gathered .limit entries).values = [] → (gathered .limit entries).uses = 0) ∧
      ∀ value ∈ (gathered .limit entries).values, ∃ ceiling, limitValue? value = some ceiling := by
  rw [Progress.misuse?_eq_none_iff progress ends.awaited]
  simp only [Progress.fault?_flag_eq_none_iff, Progress.fault?_setting_eq_none_iff, ends.flags,
    Progress.limitFlaw?_eq_none_iff]
  constructor
  · rintro ⟨flags, settings⟩
    have limits := settings .limit
    have prompts := settings .prompt
    rw [ends.limit] at limits
    rw [ends.prompt] at prompts
    refine ⟨flags, ?_, limits.2.1, limits.2.2 rfl⟩
    intro setting
    cases setting with
    | limit => exact limits.1
    | prompt => exact prompts.1
  · rintro ⟨flags, settings, limitGiven, limitRead⟩
    refine ⟨flags, ?_⟩
    intro setting
    cases setting with
    | limit =>
        rw [ends.limit]
        exact ⟨settings .limit, limitGiven, fun _ => limitRead⟩
    | prompt =>
        rw [ends.prompt]
        exact ⟨settings .prompt, by simp, by simp⟩

/-- The request at the end is what the entries mean. -/
theorem request_eq_ok_iff (ends : Ends progress entries) (request : Request) :
    progress.request = .ok request ↔ Means entries request := by
  rw [Progress.request_eq_ok_iff, ends.misuse?_eq_none_iff, ends.flags, ends.flags, ends.limit?_eq,
    ends.promptBytes_eq, ends.decoded_number_iff]
  have limitRead := map_eq_some_iff_of_length_le limitValue? (length_gathered_le .limit entries)
    request.limit
  constructor
  · rintro ⟨⟨flags, settings, limitGiven, read⟩, showPath, digits, limit, prompt, number⟩
    exact ⟨flags, settings, limitGiven, showPath, digits, limitRead.mpr ⟨read, limit⟩, prompt,
      number⟩
  · intro means
    rcases limitRead.mp means.limit with ⟨read, limit⟩
    exact ⟨⟨means.flagsOnce, means.settingsOnce, means.limitGiven, read⟩, means.showPath,
      means.digits, limit, means.prompt, means.number⟩

end Ends

/-- A command line is read exactly when its arguments have entries with a meaning. -/
theorem read_eq_ok_iff (program : Bytes) (arguments : List Bytes) (request : Request) :
    read (program :: arguments) = .ok request ↔
      ∃ entries, entries? arguments = some entries ∧ Means entries request := by
  have start : Stands {} [] none := by
    refine ⟨⟨fun _ => rfl, fun _ => rfl, rfl, ?_⟩, ?_⟩
    · intro setting waits
      cases waits
    · intro setting waits
      cases waits
  have reaches : Reaches [] (entries? arguments) (scan {} arguments) :=
    scan_reaches start rfl arguments
  rw [read, List.tail_cons]
  cases result : scan {} arguments with
  | ok last =>
      rw [result] at reaches
      rcases reaches with ⟨entries, found, holds⟩
      rw [List.nil_append] at holds
      rw [found]
      simp only [holds.ends.request_eq_ok_iff, Option.some.injEq, exists_eq_left']
  | error stop =>
      rw [result] at reaches
      constructor
      · intro accepted
        cases accepted
      · rintro ⟨entries, found, means⟩
        have many : 1 < (numbers entries).length := reaches entries found
        exact absurd many (Nat.not_lt.mpr means.length_numbers_le)

end CommandLine
end ExactFactorial
