import ExactFactorial.Proofs.CommandLine.Entries
import ExactFactorial.Proofs.Text.Decoding

namespace ExactFactorial
namespace CommandLine

/-!
# Reading agrees with the entries

The state of the reading is tied to the entries read so far by what it would hold if the latest
switch were settled now.  One step lemma says what a switch does to a state, one what an argument
that is no switch does, and each adds its entry to that tie.  By induction over the arguments the
reading comes to its end exactly when the arguments have entries with at most one number among them.
-/

/-! ## Arguments that are no numbers -/

theorem isNumberLike_eq_false {text : String} {c : Char} {rest : List Char}
    (spelled : text.toList = '-' :: c :: rest) (notDigit : c.isDigit = false) (notPoint : c ≠ '.')
    (notInf : c.toLower ≠ 'i') (notNan : c.toLower ≠ 'n') :
    Numeral.isNumberLike text = false := by
  have body : Numeral.unsigned text.toList = c :: rest := by
    rw [spelled]
    rfl
  have unbounded : Numeral.isUnbounded (c :: rest) = false := by
    have other : ∀ (d : Char) (word : List Char), c.toLower ≠ d →
        String.ofList ((c :: rest).map Char.toLower) ≠ String.ofList (d :: word) := by
      intro d word different same
      exact different (List.cons.inj (String.ofList_injective same)).1
    simp only [Numeral.isUnbounded, List.contains_cons, List.contains_nil, Bool.or_false,
      Bool.or_eq_false_iff, beq_eq_false_iff_ne]
    exact ⟨other 'i' ['n', 'f'] notInf, other 'i' "nfinity".toList notInf,
      other 'n' ['a', 'n'] notNan⟩
  have decimal : Numeral.isDecimal (c :: rest) = false := by
    have whole : (c :: rest).takeWhile Char.isDigit = [] := by
      rw [List.takeWhile_cons, if_neg (by rw [notDigit]; exact Bool.false_ne_true)]
    have after : (c :: rest).dropWhile Char.isDigit = c :: rest := by
      rw [List.dropWhile_cons, if_neg (by rw [notDigit]; exact Bool.false_ne_true)]
    rw [Numeral.isDecimal, whole, after]
    split
    · rename_i point
      exact absurd (List.cons.inj point).1 notPoint
    · rfl
  rw [Numeral.isNumberLike, body, unbounded, decimal]
  rfl

theorem isNumber_of_long {argument : Bytes} (long : argument.take 2 = separator) :
    isNumber argument = false := by
  match argument with
  | first :: second :: rest =>
      have both := List.cons.inj long
      have spelled : (Text.Utf8.lossy (first :: second :: rest)).toList =
          '-' :: '-' :: (Text.Utf8.lossy rest).toList := by
        rw [both.1, (List.cons.inj both.2).1, Text.Utf8.toList_lossy_cons _ (by decide),
          Text.Utf8.toList_lossy_cons _ (by decide)]
        rfl
      apply isNumberLike_eq_false spelled
      all_goals decide
  | [] => cases long
  | [_] => cases long

theorem isSwitch_of_long {argument : Bytes} (long : argument.take 2 = separator) :
    isSwitch argument = true := by
  have dashed : isDashed argument = true := by
    match argument with
    | first :: second :: rest =>
        have start : first = hyphen := (List.cons.inj long).1
        rw [start]
        rfl
    | [] => cases long
    | [_] => cases long
  rw [isSwitch, dashed, isNumber_of_long long]
  rfl

/-! ## What a switch does to a state -/

@[simp] theorem assign_same {κ ν : Type} [DecidableEq κ] (table : κ → ν) (key : κ) (value : ν) :
    assign table key value key = value :=
  if_pos rfl

theorem assign_other {κ ν : Type} [DecidableEq κ] (table : κ → ν) {key other : κ} (value : ν)
    (different : other ≠ key) : assign table key value other = table other :=
  if_neg different

@[simp] theorem assign_assign {κ ν : Type} [DecidableEq κ] (table : κ → ν) (key : κ)
    (value later : ν) : assign (assign table key value) key later = assign table key later := by
  funext other
  by_cases same : other = key
  · rw [same, assign_same, assign_same]
  · rw [assign_other _ _ same, assign_other _ _ same, assign_other _ _ same]

theorem assign_eq_self {κ ν : Type} [DecidableEq κ] (table : κ → ν) (key : κ) :
    assign table key (table key) = table := by
  funext other
  by_cases same : other = key
  · rw [same, assign_same]
  · rw [assign_other _ _ same]

namespace Progress

/-- Take a setting, with its value as it counts. -/
def give (progress : Progress) (setting : Setting) (value : Option Bytes) : Progress :=
  let before := progress.settings setting
  { progress with
    settings := assign progress.settings setting ⟨before.uses + 1, before.values ++ value.toList⟩
    latest := some (.setting setting)
    expectation := if value.isSome then .settled else .value setting }

/-- Take all that the switches of one argument ask for. -/
def use (progress : Progress) (uses : Uses) : Progress :=
  let raised := uses.flags.foldl raise progress
  match uses.setting with
  | none => raised
  | some (setting, value) => raised.give setting value

theorem take_eq_give (progress : Progress) (setting : Setting) (value : Option Bytes) :
    progress.take setting value = progress.give setting (value.map stripped) := by
  cases value <;> rfl

/-- A long name is taken as what it asks for, and nothing else is accepted. -/
theorem toOption_long (progress : Progress) (body : Bytes) :
    (progress.long body).toOption = (longUses? body).map progress.use := by
  unfold long longUses?
  rcases splitName body with ⟨name, value⟩
  simp only []
  cases Text.Utf8.decode? name with
  | none => rfl
  | some text =>
      simp only [Option.bind_some]
      cases Action.ofName? text with
      | none => rfl
      | some action =>
          cases action with
          | flag flag => rfl
          | setting setting =>
              simp only [take_eq_give]
              rfl
          | help => rfl
          | version => rfl

theorem toOption_letters (progress : Progress) (body : Bytes) :
    (progress.letters body).toOption = (letterUses? body).map progress.use := by
  induction body generalizing progress with
  | nil => rfl
  | cons letter rest inductionHypothesis =>
      unfold letters letterUses?
      cases Action.ofLetter? letter with
      | none => rfl
      | some action =>
          cases action with
          | flag flag =>
              simp only [inductionHypothesis, Option.map_map]
              rfl
          | setting setting =>
              simp only [take_eq_give]
              cases rest <;> rfl
          | help => rfl
          | version => rfl

/-- A switch is taken as what it asks for, wherever it stands before the separator, after the switch
before it has been settled. -/
theorem toOption_step_switch {progress : Progress} {argument : Bytes}
    (early : progress.trailing = false) (proper : argument ≠ separator)
    (isSwitch : isSwitch argument = true) :
    (progress.step argument).toOption = (switchUses? argument).map progress.settle.use := by
  rw [CommandLine.isSwitch, Bool.and_eq_true, Bool.not_eq_true'] at isSwitch
  rcases isSwitch with ⟨dashed, noNumber⟩
  have reads : progress.readsSwitch argument = true := by
    unfold readsSwitch
    split
    · rfl
    · exact dashed
    · rw [dashed, noNumber]
      rfl
  rw [separator] at proper
  rw [step, early, if_neg Bool.false_ne_true, if_neg proper, if_pos reads, switch, switchUses?,
    separator]
  by_cases long : argument.take 2 = [hyphen, hyphen]
  · rw [if_pos long, if_pos long, toOption_long]
  · rw [if_neg long, if_neg long, if_neg (by rw [dashed]; decide),
      if_neg (by rw [noNumber]; decide), toOption_letters]

theorem step_value {progress : Progress} {setting : Setting} {argument : Bytes}
    (early : progress.trailing = false) (proper : argument ≠ separator)
    (noSwitch : isSwitch argument = false) (waits : progress.expectation = .value setting) :
    progress.step argument = .ok (progress.supply setting argument) := by
  have reads : progress.readsSwitch argument = false := by
    rw [readsSwitch, waits]
    exact noSwitch
  rw [separator] at proper
  rw [step, early, if_neg Bool.false_ne_true, if_neg proper, reads, if_neg Bool.false_ne_true,
    waits]

@[simp] theorem settle_number (progress : Progress) :
    progress.settle.number = progress.number := by
  unfold settle
  split <;> rfl

@[simp] theorem settle_trailing (progress : Progress) :
    progress.settle.trailing = progress.trailing := by
  unfold settle
  split <;> rfl

@[simp] theorem settle_latest (progress : Progress) :
    progress.settle.latest = progress.latest := by
  unfold settle
  split <;> rfl

@[simp] theorem settle_expectation (progress : Progress) :
    progress.settle.expectation = progress.expectation := by
  unfold settle
  split <;> rfl

/-- Flags are counted, and the last of them is the latest switch. -/
theorem foldl_raise (flags : List Flag) (progress : Progress) :
    flags.foldl raise progress =
      { progress with
        flags := fun flag => progress.flags flag + flags.count flag
        latest := (flags.getLast?.map Switch.flag).or progress.latest
        expectation := if flags.isEmpty then progress.expectation else .free } := by
  induction flags generalizing progress with
  | nil => rfl
  | cons flag flags inductionHypothesis =>
      rw [List.foldl_cons, inductionHypothesis, raise]
      simp only [List.isEmpty_cons, Bool.false_eq_true, if_false, ite_self, mk.injEq, true_and,
        and_true]
      refine ⟨?_, ?_⟩
      · funext other
        by_cases same : other = flag
        · rw [same, assign_same, List.count_cons_self]
          omega
        · rw [assign_other _ _ same, List.count_cons_of_ne (Ne.symm same)]
      · rw [List.getLast?_cons]
        cases flags.getLast? <;> rfl

/-- A value that comes as the next argument counts like one in the same argument. -/
theorem supply_use (progress : Progress) (flags : List Flag) (setting : Setting) (value : Bytes) :
    (progress.use ⟨flags, some (setting, none)⟩).supply setting value =
      progress.use ⟨flags, some (setting, some value)⟩ := by
  simp only [use, give, supply, assign_same, assign_assign, Option.toList_none, List.append_nil]
  rfl

theorem settle_of_none {progress : Progress} (latest : progress.latest = none) :
    progress.settle = progress := by
  rw [settle, latest]

theorem settle_of_flag {progress : Progress} {flag : Flag}
    (latest : progress.latest = some (.flag flag)) :
    progress.settle = { progress with flags := assign progress.flags flag 1 } := by
  rw [settle, latest]

theorem settle_of_setting {progress : Progress} {setting : Setting}
    (latest : progress.latest = some (.setting setting)) :
    progress.settle =
      { progress with
        settings := assign progress.settings setting (progress.settings setting).settle } := by
  rw [settle, latest]

@[simp] theorem use_trailing (progress : Progress) (uses : Uses) :
    (progress.use uses).trailing = progress.trailing := by
  have raised := congrArg Progress.trailing (foldl_raise uses.flags progress)
  unfold use
  split
  · exact raised
  · exact raised

theorem use_flags_expectation (progress : Progress) {flags : List Flag} (some : flags ≠ []) :
    (progress.use ⟨flags, none⟩).expectation = .free := by
  have raised := congrArg Progress.expectation (foldl_raise flags progress)
  rw [if_neg (by rw [List.isEmpty_iff]; exact some)] at raised
  exact raised

/-- Settling twice is settling once, where that leaves no setting with a second value. -/
theorem settle_settle {progress : Progress}
    (single : ∀ setting, (progress.settle.settings setting).values.length ≤ 1) :
    progress.settle.settle = progress.settle := by
  rcases latest : progress.latest with _ | flag | setting
  · rw [settle_of_none latest, settle_of_none latest]
  · have again : progress.settle.latest = some (.flag flag) := by rw [settle_latest, latest]
    rw [settle_of_flag again, settle_of_flag latest]
    simp only [assign_assign]
  · have again : progress.settle.latest = some (.setting setting) := by rw [settle_latest, latest]
    rw [settle_of_setting again, Given.settle_of_length_le (single setting),
      settle_of_setting latest]
    simp only [assign_same, assign_assign]

end Progress

/-! ## The tie between a state and entries -/

/-- The state holds what the entries add up to, once its latest switch is settled.  A setting whose
value is awaited has been used. -/
structure Holds (progress : Progress) (entries : List Entry) : Prop where
  flags : ∀ flag, progress.settle.flags flag = tally flag entries
  settings : ∀ setting, progress.settle.settings setting = gathered setting entries
  number : progress.number.toList = numbers entries
  awaited : ∀ setting, progress.expectation = .value setting →
    (gathered setting entries).uses ≠ 0

namespace Holds

variable {progress : Progress} {entries : List Entry}

theorem settle_settle (holds : Holds progress entries) :
    progress.settle.settle = progress.settle := by
  apply Progress.settle_settle
  intro setting
  rw [holds.settings]
  exact length_gathered_le setting entries

theorem settle (holds : Holds progress entries) : Holds progress.settle entries where
  flags := by
    rw [holds.settle_settle]
    exact holds.flags
  settings := by
    rw [holds.settle_settle]
    exact holds.settings
  number := by
    rw [Progress.settle_number]
    exact holds.number
  awaited := by
    rw [Progress.settle_expectation]
    exact holds.awaited

/-- A state that has taken one entry more, by what became of each part of the state before it. -/
theorem concat (holds : Holds progress entries) {next : Progress} (entry : Entry)
    (flags : ∀ flag, next.settle.flags flag = entry.countFlag flag (progress.settle.flags flag))
    (settings : ∀ setting, next.settle.settings setting =
      entry.giveSetting setting (progress.settle.settings setting))
    (number : next.number.toList = progress.number.toList ++ entry.number?.toList)
    (awaited : ∀ setting, next.expectation = .value setting →
      (next.settle.settings setting).uses ≠ 0) :
    Holds next (entries ++ [entry]) where
  flags := fun flag => by rw [flags, holds.flags, tally_concat]
  settings := fun setting => by rw [settings, holds.settings, gathered_concat]
  number := by
    rw [number, holds.number, numbers_append]
    cases entry <;> rfl
  awaited := fun setting waits => by
    rw [gathered_concat, ← holds.settings, ← settings]
    exact awaited setting waits

theorem raise (holds : Holds progress entries) {flags : List Flag} (some : flags ≠ []) :
    Holds (progress.settle.use ⟨flags, none⟩) (entries ++ [.switches flags none]) := by
  have state : progress.settle.use ⟨flags, none⟩ = _ := Progress.foldl_raise flags progress.settle
  have last := List.getLast?_eq_some_getLast some
  generalize flags.getLast some = flag at last
  have latest : (progress.settle.use ⟨flags, none⟩).latest = .some (.flag flag) := by
    rw [state, last]
    rfl
  have settled := Progress.settle_of_flag latest
  apply holds.concat
  · intro other
    rw [settled]
    simp only [state, Entry.countFlag, last, Option.some.injEq]
    by_cases same : other = flag
    · rw [same, if_pos rfl, assign_same]
    · rw [if_neg (Ne.symm same), assign_other _ _ same]
  · intro setting
    rw [settled, state]
    rfl
  · rw [state]
    exact (congrArg Option.toList progress.settle_number).trans (List.append_nil _).symm
  · intro setting waits
    rw [Progress.use_flags_expectation _ some] at waits
    cases waits

theorem give (holds : Holds progress entries) (flags : List Flag) (setting : Setting)
    (value : Option Bytes) :
    Holds (progress.settle.use ⟨flags, some (setting, value)⟩)
      (entries ++ [.switches flags (some (setting, value))]) := by
  have state : progress.settle.use ⟨flags, some (setting, value)⟩ =
      (_ : Progress).give setting value :=
    congrArg (Progress.give · setting value) (Progress.foldl_raise flags progress.settle)
  have latest : (progress.settle.use ⟨flags, some (setting, value)⟩).latest =
      some (.setting setting) := by
    rw [state]
    rfl
  have settled := Progress.settle_of_setting latest
  apply holds.concat
  · intro flag
    rw [settled, state]
    rfl
  · intro other
    rw [settled]
    simp only [state, Progress.give, Entry.giveSetting, assign_assign, assign_same]
    by_cases same : other = setting
    · rw [same, if_pos rfl, assign_same]
    · rw [if_neg (Ne.symm same), assign_other _ _ same]
  · rw [state]
    exact (congrArg Option.toList progress.settle_number).trans (List.append_nil _).symm
  · intro other waits
    have same : other = setting := by
      rw [state, Progress.give] at waits
      cases value with
      | none => exact (Expectation.value.inj waits).symm
      | some _ => cases waits
    rw [settled, same]
    simp only [state, Progress.give, assign_same]
    exact Given.settle_uses_ne_zero (Nat.succ_ne_zero _)

theorem place (holds : Holds progress entries) (room : progress.number = none) (argument : Bytes) :
    Holds { progress.settle with latest := none, number := some argument }
      (entries ++ [.number argument]) := by
  have settled : Progress.settle { progress.settle with latest := none, number := some argument } =
      _ := Progress.settle_of_none rfl
  apply holds.concat
  · intro flag
    rw [settled]
    rfl
  · intro setting
    rw [settled]
    rfl
  · rw [room]
    rfl
  · intro setting waits
    rw [settled]
    rw [Progress.settle_expectation] at waits
    exact holds.settings setting ▸ holds.awaited setting waits

/-- The tie is to a few parts of the state only. -/
theorem congr (holds : Holds progress entries) {other : Progress}
    (flags : other.flags = progress.flags) (settings : other.settings = progress.settings)
    (latest : other.latest = progress.latest) (number : other.number = progress.number)
    (awaited : ∀ setting, other.expectation = .value setting →
      progress.expectation = .value setting) :
    Holds other entries := by
  have settled : other.settle.flags = progress.settle.flags ∧
      other.settle.settings = progress.settle.settings := by
    unfold Progress.settle
    rw [latest]
    split
    · exact ⟨flags, settings⟩
    · exact ⟨by rw [flags], settings⟩
    · exact ⟨flags, by rw [settings]⟩
  exact ⟨fun flag => by rw [settled.1, holds.flags],
    fun setting => by rw [settled.2, holds.settings],
    by rw [number, holds.number],
    fun setting waits => holds.awaited setting (awaited setting waits)⟩

end Holds

/-! ## From one argument to all of them -/

theorem exists_error_of_toOption_eq_none {ε α : Type} {result : Except ε α}
    (nothing : result.toOption = none) : ∃ error, result = .error error := by
  cases result with
  | ok value => cases nothing
  | error error => exact ⟨error, rfl⟩

theorem eq_ok_of_toOption_eq_some {ε α : Type} {result : Except ε α} {value : α}
    (something : result.toOption = some value) : result = .ok value := by
  cases result with
  | ok other => rw [Option.some.inj something]
  | error error => cases something

/-- How the reading ends, by the entries that were still to come: in a state that holds them too, or
in a stop, which it may only if there are no entries or more than one number among them. -/
def Reaches (entries : List Entry) (more? : Option (List Entry)) : Except Stop Progress → Prop
  | .ok last => ∃ more, more? = some more ∧ Holds last (entries ++ more)
  | .error _ => ∀ more, more? = some more → 1 < (numbers (entries ++ more)).length

/-- Entries found on the way count as still to come from further ahead. -/
theorem Reaches.earlier {entries head : List Entry} {more? : Option (List Entry)}
    {result : Except Stop Progress} (reaches : Reaches (entries ++ head) more? result) :
    Reaches entries (more?.map (head ++ ·)) result := by
  cases result with
  | ok last =>
      rcases reaches with ⟨more, found, holds⟩
      refine ⟨head ++ more, by rw [found]; rfl, ?_⟩
      rw [← List.append_assoc]
      exact holds
  | error stop =>
      intro more found
      rcases Option.map_eq_some_iff.mp found with ⟨rest, rested, rfl⟩
      rw [← List.append_assoc]
      exact reaches rest rested

/-- Reading on after a number was placed, which stops if there was one already. -/
theorem Holds.reaches_place {progress : Progress} {entries : List Entry}
    (holds : Holds progress entries) (argument : Bytes) (later : List Bytes)
    {more? : Option (List Entry)}
    (follows : Holds { progress.settle with latest := none, number := some argument }
        (entries ++ [.number argument]) →
      Reaches (entries ++ [.number argument]) more?
        (scan { progress.settle with latest := none, number := some argument } later)) :
    Reaches entries (more?.map (Entry.number argument :: ·))
      (match progress.place argument with
        | .ok next => scan next later
        | .error stop => .error (stop.amid later)) := by
  rw [Progress.place]
  cases number : progress.number with
  | none => exact (follows (holds.place number argument)).earlier
  | some first =>
      intro more found
      rcases Option.map_eq_some_iff.mp found with ⟨rest, _, rfl⟩
      have filled := holds.number
      rw [number] at filled
      rw [numbers_append, ← filled]
      simp [numbers, Entry.number?]

theorem scan_trailing {progress : Progress} {entries : List Entry} (holds : Holds progress entries)
    (trailing : progress.trailing = true) (arguments : List Bytes) :
    Reaches entries (some (arguments.map Entry.number)) (scan progress arguments) := by
  induction arguments generalizing progress entries with
  | nil => exact ⟨[], rfl, by rw [List.append_nil]; exact holds⟩
  | cons argument later inductionHypothesis =>
      rw [scan, Progress.step, if_pos trailing]
      exact holds.reaches_place argument later fun placed =>
        inductionHypothesis placed (progress.settle_trailing.trans trailing)

/-- Where the reading stands: all entries are held, and either no value is awaited, or the entry of
the last argument still lacks it. -/
def Stands (progress : Progress) (entries : List Entry) : Pending → Prop
  | none => Holds progress entries ∧ ∀ setting, progress.expectation ≠ .value setting
  | some (flags, setting) => ∃ before, Holds before entries ∧
      progress = before.settle.use ⟨flags, some (setting, none)⟩

theorem Stands.holds {progress : Progress} {entries : List Entry} {pending : Pending}
    (stands : Stands progress entries pending) :
    Holds progress (entries ++ pending.unfulfilled) := by
  cases pending with
  | none =>
      rw [Pending.unfulfilled, List.append_nil]
      exact stands.1
  | some awaiting =>
      rcases stands with ⟨before, holds, rfl⟩
      exact holds.give awaiting.1 awaiting.2 none

theorem letterUses?_ne_nothing {body : Bytes} (some : body ≠ []) :
    letterUses? body ≠ .some ⟨[], none⟩ := by
  cases body with
  | nil => exact absurd rfl some
  | cons letter rest =>
      unfold letterUses?
      split
      · cases letterUses? rest <;> simp
      · simp
      all_goals simp

theorem bare_short {letters : Bytes} (later : letters.head? ≠ some hyphen) :
    bare (hyphen :: letters) = letters :=
  List.dropWhile_beq_eq_self_of_head?_ne later

theorem bare_ne_nil {argument : Bytes} (dashed : isDashed argument = true)
    (short : argument.take 2 ≠ separator) : bare argument ≠ [] := by
  rw [isDashed, Bool.and_eq_true, beq_iff_eq, bne_iff_ne] at dashed
  match argument with
  | [] => cases dashed.1
  | [first] => exact absurd (congrArg ([·]) (Option.some.inj dashed.1)) dashed.2
  | first :: second :: rest =>
      have start : first = hyphen := Option.some.inj dashed.1
      have different : (second :: rest).head? ≠ some hyphen := by
        intro same
        apply short
        rw [start, Option.some.inj same]
        rfl
      rw [start, bare_short different]
      exact List.cons_ne_nil second rest

theorem switchUses?_ne_nothing {argument : Bytes} (isSwitch : isSwitch argument = true) :
    switchUses? argument ≠ some ⟨[], none⟩ := by
  unfold switchUses?
  split
  · unfold longUses?
    split <;> simp
  · rename_i short
    rw [CommandLine.isSwitch, Bool.and_eq_true] at isSwitch
    exact letterUses?_ne_nothing (bare_ne_nil isSwitch.1 short)

/-- An argument that is no switch is placed as the number, where no value is awaited. -/
theorem exists_step_eq_place {progress : Progress} {entries : List Entry} {argument : Bytes}
    (stands : Stands progress entries none) (early : progress.trailing = false)
    (proper : argument ≠ separator) (noSwitch : isSwitch argument = false) :
    ∃ same, Stands same entries none ∧ same.trailing = false ∧
      progress.step argument = same.place argument := by
  have notLong : argument.take 2 ≠ separator := by
    intro long
    rw [isSwitch_of_long long] at noSwitch
    cases noSwitch
  rw [separator] at proper notLong
  rcases stands with ⟨holds, ready⟩
  have calm : ∀ setting, progress.settle.expectation ≠ .value setting := by
    rw [Progress.settle_expectation]
    exact ready
  have quiet := progress.settle_trailing.trans early
  rw [Progress.step, early, if_neg Bool.false_ne_true, if_neg proper]
  by_cases reads : progress.readsSwitch argument = true
  · rw [if_pos reads, Progress.switch, if_neg notLong]
    by_cases dashed : isDashed argument = true
    · have isNumber : isNumber argument = true := by
        rw [isSwitch, dashed] at noSwitch
        rw [Bool.true_and, Bool.not_eq_false'] at noSwitch
        exact noSwitch
      rw [if_neg (by rw [dashed]; decide), if_pos isNumber]
      have free : Holds { progress.settle with expectation := .free } entries :=
        holds.settle.congr rfl rfl rfl rfl fun setting waits => by cases waits
      exact ⟨_, ⟨free, fun setting waits => by cases waits⟩, quiet, rfl⟩
    · rw [if_pos (by rw [Bool.not_eq_true'] ; exact Bool.not_eq_true _ ▸ dashed)]
      exact ⟨_, ⟨holds.settle, calm⟩, quiet, rfl⟩
  · rw [if_neg reads]
    refine ⟨progress, ⟨holds, ready⟩, early, ?_⟩
    split
    · rename_i setting waits
      exact absurd waits (ready setting)
    · rfl
    · rfl

/-- A switch moves the reading on by its entry, or by what it leaves to be awaited. -/
theorem Stands.use {progress : Progress} {entries : List Entry} {pending : Pending}
    (stands : Stands progress entries pending) {uses : Uses} (something : uses ≠ ⟨[], none⟩) :
    Stands (progress.settle.use uses) (entries ++ (pending.unfulfilled ++ uses.complete))
      uses.pending := by
  have holds := stands.holds
  rw [← List.append_assoc]
  rcases uses with ⟨flags, _ | ⟨setting, _ | value⟩⟩
  · have some : flags ≠ [] := by
      rintro rfl
      exact something rfl
    refine ⟨holds.raise some, ?_⟩
    intro setting waits
    rw [Progress.use_flags_expectation _ some] at waits
    cases waits
  · rw [Uses.complete, List.append_nil]
    exact ⟨progress, holds, rfl⟩
  · refine ⟨holds.give flags setting (some value), ?_⟩
    intro other waits
    cases waits

theorem Stands.supply {before : Progress} {entries : List Entry} (holds : Holds before entries)
    (flags : List Flag) (setting : Setting) (value : Bytes) :
    Stands ((before.settle.use ⟨flags, some (setting, none)⟩).supply setting value)
      (entries ++ [.switches flags (some (setting, some value))]) none := by
  rw [Progress.supply_use]
  refine ⟨holds.give flags setting (some value), ?_⟩
  intro other waits
  cases waits

/-- Reading the arguments from where it stands ends as the entries that are still to come say. -/
theorem scan_reaches {progress : Progress} {entries : List Entry} {pending : Pending}
    (stands : Stands progress entries pending) (early : progress.trailing = false)
    (arguments : List Bytes) :
    Reaches entries (entriesFrom? pending arguments) (scan progress arguments) := by
  induction arguments generalizing progress entries pending with
  | nil => exact ⟨_, rfl, stands.holds⟩
  | cons argument later inductionHypothesis =>
      by_cases proper : argument = separator
      · have apart : progress.step argument = .ok { progress with trailing := true } := by
          rw [Progress.step, early, if_neg Bool.false_ne_true, proper]
          exact if_pos rfl
        have holds : Holds { progress with trailing := true } (entries ++ pending.unfulfilled) :=
          stands.holds.congr rfl rfl rfl rfl fun _ waits => waits
        rw [scan, apart, entriesFrom?, if_pos proper]
        exact (scan_trailing holds rfl later).earlier
      rw [scan, entriesFrom?, if_neg proper]
      by_cases switch : isSwitch argument = true
      · have step := Progress.toOption_step_switch early proper switch
        rw [if_pos switch]
        cases asked : switchUses? argument with
        | none =>
            rw [asked] at step
            rcases exists_error_of_toOption_eq_none step with ⟨stop, stopped⟩
            rw [stopped]
            intro more found
            cases found
        | some uses =>
            rw [asked] at step
            rw [eq_ok_of_toOption_eq_some step]
            have something : uses ≠ ⟨[], none⟩ := by
              rintro rfl
              exact switchUses?_ne_nothing switch asked
            have early' : (progress.settle.use uses).trailing = false :=
              (Progress.use_trailing _ _).trans (progress.settle_trailing.trans early)
            exact (inductionHypothesis (stands.use something) early').earlier
      · rw [if_neg switch]
        rw [Bool.not_eq_true] at switch
        cases pending with
        | none =>
            rcases exists_step_eq_place stands early proper switch with
              ⟨same, stands, early, step⟩
            rw [step]
            exact stands.1.reaches_place argument later fun placed =>
              inductionHypothesis ⟨placed, by
                rw [Progress.settle_expectation]
                exact stands.2⟩ (same.settle_trailing.trans early)
        | some awaiting =>
            rcases awaiting with ⟨flags, setting⟩
            rcases stands with ⟨before, holds, rfl⟩
            rw [Progress.step_value early proper switch rfl]
            exact (inductionHypothesis (Stands.supply holds flags setting argument) early).earlier

end CommandLine
end ExactFactorial
