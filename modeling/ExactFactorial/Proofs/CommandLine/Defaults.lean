import ExactFactorial.Proofs.CommandLine.Meaning
import Mathlib.Data.List.Induction

namespace ExactFactorial
namespace CommandLine

open Text.Utf8 (encode)

/-!
# Arguments that come first as defaults

Arguments from a file are put before those that were typed, so that the typed ones win.  That works
unless the two parts get into each other's way, and there are three ways to do so.  A setting at
the end of the file may wait for a value, and take the first typed argument for it.  A flag that is
used in both parts counts twice, unless it ends an argument of the typed part.  And a setting that
is used in both parts counts twice, unless its last use brings a value and is not the first to do
so.  These are all the ways: where none of them occurs, the typed part overrides the file as it
should.
-/

/-! ## The entries of two parts -/

/-- What arguments without a separator leave to be awaited. -/
def leftOver (pending : Pending) : List Bytes → Pending
  | [] => pending
  | argument :: later =>
      leftOver (if isSwitch argument then (switchUses? argument).bind Uses.pending else none) later

/-- The entries of a first part without a separator, but for the one that lacks its value, come
before those of the second part. -/
theorem exists_entriesFrom?_append {pending : Pending} {file : List Bytes} {before : List Entry}
    (noSeparator : separator ∉ file) (found : entriesFrom? pending file = some before) :
    ∃ complete, before = complete ++ (leftOver pending file).unfulfilled ∧
      ∀ typed, entriesFrom? pending (file ++ typed) =
        (entriesFrom? (leftOver pending file) typed).map (complete ++ ·) := by
  induction file generalizing pending before with
  | nil =>
      refine ⟨[], (Option.some.inj found).symm, fun typed => ?_⟩
      rw [List.nil_append]
      exact Option.map_id'.symm
  | cons argument later inductionHypothesis =>
      rw [List.mem_cons, not_or] at noSeparator
      have proper : argument ≠ separator := Ne.symm noSeparator.1
      rw [entriesFrom?, if_neg proper] at found
      rw [leftOver]
      by_cases switch : isSwitch argument = true
      · rw [if_pos switch] at found
        rcases Option.bind_eq_some_iff.mp found with ⟨uses, asked, rest⟩
        rcases Option.map_eq_some_iff.mp rest with ⟨more, followed, rfl⟩
        rcases inductionHypothesis noSeparator.2 followed with ⟨complete, rfl, appended⟩
        rw [if_pos switch, asked, Option.bind_some]
        refine ⟨pending.unfulfilled ++ uses.complete ++ complete, ?_, fun typed => ?_⟩
        · rw [← List.append_assoc]
        · rw [List.cons_append, entriesFrom?, if_neg proper, if_pos switch, asked, Option.bind_some,
            appended, Option.map_map]
          simp only [Function.comp_def, List.append_assoc]
      · rw [if_neg switch] at found
        rcases Option.map_eq_some_iff.mp found with ⟨more, followed, rfl⟩
        rcases inductionHypothesis noSeparator.2 followed with ⟨complete, rfl, appended⟩
        rw [if_neg switch]
        refine ⟨pending.fulfilled argument :: complete, rfl, fun typed => ?_⟩
        rw [List.cons_append, entriesFrom?, if_neg proper, if_neg switch, appended, Option.map_map]
        rfl

/-- Whether the first argument would be taken for a value that is awaited. -/
def StartsPlain (typed : List Bytes) : Prop :=
  ∃ first later, typed = first :: later ∧ first ≠ separator ∧ isSwitch first = false

/-- A value that does not come leaves the entry without it. -/
theorem entriesFrom?_of_not_swallowed {pending : Pending} {typed : List Bytes}
    (apart : pending = none ∨ ¬ StartsPlain typed) :
    entriesFrom? pending typed = (entriesFrom? none typed).map (pending.unfulfilled ++ ·) := by
  cases typed with
  | nil => exact congrArg some (List.append_nil _).symm
  | cons first later =>
      rw [entriesFrom?, entriesFrom?]
      by_cases proper : first = separator
      · rw [if_pos proper, if_pos proper]
        rfl
      · rw [if_neg proper, if_neg proper]
        by_cases switch : isSwitch first = true
        · rw [if_pos switch, if_pos switch]
          cases switchUses? first with
          | none => rfl
          | some uses =>
              simp only [Option.bind_some, Option.map_map, Function.comp_def, List.append_assoc]
              rfl
        · rcases apart with rfl | notPlain
          · exact Option.map_id'.symm
          · rw [Bool.not_eq_true] at switch
            exact absurd ⟨first, later, rfl, proper, switch⟩ notPlain

/-! ## What two parts add up to -/

/-- Whether an argument ends with a flag, so that it counts once whatever came before. -/
def Entry.endsWith (flag : Flag) : Entry → Bool
  | .switches flags none => flags.getLast? == some flag
  | .switches _ (some _) | .number _ => false

/-- The value that comes with a use of a setting, or the lack of it. -/
def Entry.mention? (setting : Setting) : Entry → Option (Option Bytes)
  | .switches _ (some (used, value)) => if used = setting then some value else none
  | .switches _ none | .number _ => none

/-- The uses of a setting. -/
def mentions (setting : Setting) (entries : List Entry) : List (Option Bytes) :=
  entries.filterMap (Entry.mention? setting)

/-- The values that a setting is given. -/
def offered (setting : Setting) (entries : List Entry) : List Bytes :=
  (mentions setting entries).filterMap id

theorem mentions_append (setting : Setting) (entries more : List Entry) :
    mentions setting (entries ++ more) = mentions setting entries ++ mentions setting more :=
  List.filterMap_append

theorem offered_append (setting : Setting) (entries more : List Entry) :
    offered setting (entries ++ more) = offered setting entries ++ offered setting more := by
  rw [offered, mentions_append, List.filterMap_append]
  rfl

theorem countFlag_of_endsWith {flag : Flag} {entry : Entry} (count : Nat)
    (ends : entry.endsWith flag = true) : entry.countFlag flag count = 1 := by
  rcases entry with ⟨flags, _ | used⟩ | number
  · exact if_pos (beq_iff_eq.mp ends)
  · cases ends
  · cases ends

theorem countFlag_of_not_endsWith {flag : Flag} {entry : Entry} (count : Nat)
    (inside : entry.endsWith flag = false) :
    entry.countFlag flag count = count + entry.countFlag flag 0 := by
  rcases entry with ⟨flags, _ | used⟩ | number
  · rw [Entry.endsWith, beq_eq_false_iff_ne] at inside
    rw [Entry.countFlag, Entry.countFlag, if_neg inside, if_neg inside, Nat.zero_add]
  · rw [Entry.countFlag, Entry.countFlag, Nat.zero_add]
  · rfl

/-- The count of a flag starts anew where an argument ends with it, and is a sum otherwise. -/
theorem tally_append (flag : Flag) (entries more : List Entry) :
    tally flag (entries ++ more) =
      if more.any (Entry.endsWith flag) then tally flag more
      else tally flag entries + tally flag more := by
  induction more using List.reverseRecOn with
  | nil =>
      rw [List.append_nil]
      rfl
  | append_singleton more entry inductionHypothesis =>
      rw [← List.append_assoc, tally_concat, tally_concat, List.any_append, List.any_cons,
        List.any_nil, Bool.or_false]
      cases ends : entry.endsWith flag with
      | true =>
          rw [countFlag_of_endsWith _ ends, countFlag_of_endsWith _ ends, Bool.or_true, if_pos rfl]
      | false =>
          rw [countFlag_of_not_endsWith _ ends, inductionHypothesis, Bool.or_false,
            countFlag_of_not_endsWith (tally flag more) ends]
          split
          · rfl
          · omega

theorem tally_ne_zero_of_endsWith {flag : Flag} {entries : List Entry}
    (ends : entries.any (Entry.endsWith flag) = true) : tally flag entries ≠ 0 := by
  induction entries using List.reverseRecOn with
  | nil => cases ends
  | append_singleton entries entry inductionHypothesis =>
      rw [tally_concat]
      cases last : entry.endsWith flag with
      | true =>
          rw [countFlag_of_endsWith _ last]
          exact Nat.one_ne_zero
      | false =>
          rw [List.any_append, List.any_cons, List.any_nil, last, Bool.or_false,
            Bool.or_false] at ends
          have before := inductionHypothesis ends
          rw [countFlag_of_not_endsWith _ last]
          omega

theorem tally_append_le_one_iff {flag : Flag} {file typed : List Entry}
    (fileOnce : tally flag file ≤ 1) (typedOnce : tally flag typed ≤ 1) :
    tally flag (file ++ typed) ≤ 1 ↔
      (tally flag file ≠ 0 → tally flag typed ≠ 0 → typed.any (Entry.endsWith flag) = true) := by
  rw [tally_append]
  cases typed.any (Entry.endsWith flag) with
  | true => exact ⟨fun _ _ _ => rfl, fun _ => typedOnce⟩
  | false =>
      rw [if_neg Bool.false_ne_true]
      constructor
      · omega
      · intro apart
        by_cases unused : tally flag file = 0
        · omega
        · by_cases untyped : tally flag typed = 0
          · omega
          · cases apart unused untyped

theorem tally_append_bne_zero (flag : Flag) (file typed : List Entry) :
    (tally flag (file ++ typed) != 0) = (tally flag file != 0 || tally flag typed != 0) := by
  have unused : tally flag (file ++ typed) = 0 ↔ tally flag file = 0 ∧ tally flag typed = 0 := by
    rw [tally_append]
    split
    · rename_i ends
      have used := tally_ne_zero_of_endsWith ends
      omega
    · omega
  rw [Bool.eq_iff_iff, Bool.or_eq_true, bne_iff_ne, bne_iff_ne, bne_iff_ne, Ne, unused, not_and_or]

/-- One use of a setting, with its value if there is one. -/
def Given.use (given : Given) (value : Option Bytes) : Given :=
  Given.settle ⟨given.uses + 1, given.values ++ value.toList⟩

theorem Given.use_ne_zero (given : Given) (value : Option Bytes) : (given.use value).uses ≠ 0 :=
  Given.settle_uses_ne_zero (Nat.succ_ne_zero given.uses)

theorem Given.use_none {given : Given} (single : given.values.length ≤ 1) :
    given.use none = ⟨given.uses + 1, given.values⟩ := by
  rw [Given.use, Option.toList_none, List.append_nil]
  exact Given.settle_of_length_le single

theorem Given.use_first {given : Given} (value : Bytes) (nothing : given.values = []) :
    given.use (some value) = ⟨given.uses + 1, [value]⟩ := by
  rw [Given.use, nothing]
  rfl

theorem Given.use_again {given : Given} {old : Bytes} (value : Bytes)
    (single : given.values = [old]) : given.use (some value) = ⟨1, [value]⟩ := by
  rw [Given.use, single]
  rfl

theorem gathered_eq_foldl (setting : Setting) (entries : List Entry) :
    gathered setting entries = (mentions setting entries).foldl Given.use {} := by
  rw [mentions, List.foldl_filterMap, gathered]
  congr
  funext given entry
  rcases entry with ⟨flags, _ | ⟨used, value⟩⟩ | number
  · rfl
  · rw [Entry.giveSetting, Entry.mention?]
    by_cases same : used = setting
    · rw [if_pos same, if_pos same]
      rfl
    · rw [if_neg same, if_neg same]
  · rfl

theorem length_values_foldl_use_le (uses : List (Option Bytes)) :
    (uses.foldl Given.use {}).values.length ≤ 1 := by
  induction uses using List.reverseRecOn with
  | nil => exact Nat.zero_le 1
  | append_singleton uses value inductionHypothesis =>
      rw [List.foldl_append, List.foldl_cons, List.foldl_nil]
      apply Given.length_settle_le
      have few : value.toList.length ≤ 1 := Option.length_toList_le
      rw [List.length_append]
      omega

/-- The last value given is the one that stays. -/
theorem values_foldl_use (uses : List (Option Bytes)) :
    (uses.foldl Given.use {}).values = (uses.filterMap id).getLast?.toList := by
  induction uses using List.reverseRecOn with
  | nil => rfl
  | append_singleton uses value inductionHypothesis =>
      rw [List.foldl_append, List.foldl_cons, List.foldl_nil, List.filterMap_append]
      cases value with
      | none =>
          rw [Given.use_none (length_values_foldl_use_le uses), inductionHypothesis]
          exact congrArg (fun values => (List.getLast? values).toList) (List.append_nil _).symm
      | some value =>
          have last : (uses.filterMap id ++ [some value].filterMap id).getLast? = some value :=
            List.getLast?_concat
          rw [last]
          cases before : (uses.filterMap id).getLast? with
          | none =>
              rw [before] at inductionHypothesis
              rw [Given.use_first value inductionHypothesis]
              rfl
          | some old =>
              rw [before] at inductionHypothesis
              rw [Given.use_again value inductionHypothesis]
              rfl

theorem uses_foldl_use_eq_zero_iff (uses : List (Option Bytes)) :
    (uses.foldl Given.use {}).uses = 0 ↔ uses = [] := by
  induction uses using List.reverseRecOn with
  | nil => exact ⟨fun _ => rfl, fun _ => rfl⟩
  | append_singleton uses value _ =>
      rw [List.foldl_append, List.foldl_cons, List.foldl_nil]
      constructor
      · intro zero
        exact absurd zero (Given.use_ne_zero _ value)
      · intro nothing
        exact absurd nothing (List.concat_ne_nil value uses)

/-- A setting counts once if it was used at most once, or if it was given two values at least, the
last of them by its last use. -/
theorem uses_foldl_use_le_one_iff (uses : List (Option Bytes)) :
    (uses.foldl Given.use {}).uses ≤ 1 ↔
      uses.length ≤ 1 ∨
      2 ≤ (uses.filterMap id).length ∧ ∃ value, uses.getLast? = some (some value) := by
  induction uses using List.reverseRecOn with
  | nil => exact ⟨fun _ => .inl (Nat.zero_le 1), fun _ => Nat.zero_le 1⟩
  | append_singleton uses value _ =>
      have unused := uses_foldl_use_eq_zero_iff uses
      rw [← List.length_eq_zero_iff] at unused
      have short : (uses.foldl Given.use {}).uses + 1 ≤ 1 ↔ uses.length + 1 ≤ 1 := by omega
      have values := values_foldl_use uses
      rw [List.foldl_append, List.foldl_cons, List.foldl_nil, List.length_append,
        List.length_singleton, List.filterMap_append, List.length_append, List.getLast?_concat]
      cases value with
      | none =>
          rw [Given.use_none (length_values_foldl_use_le uses)]
          constructor
          · intro once
            left
            exact short.mp once
          · rintro (few | ⟨_, value, impossible⟩)
            · exact short.mpr few
            · cases impossible
      | some value =>
          cases before : (uses.filterMap id).getLast? with
          | none =>
              rw [before] at values
              rw [List.getLast?_eq_none_iff] at before
              rw [Given.use_first value values, before]
              constructor
              · intro once
                left
                exact short.mp once
              · rintro (few | ⟨impossible, _⟩)
                · exact short.mpr few
                · exact absurd impossible (Nat.not_succ_le_self 1)
          | some old =>
              rw [before] at values
              rw [Given.use_again value values]
              have some : 0 < (uses.filterMap id).length := by
                rw [List.length_pos_iff]
                intro nothing
                rw [nothing] at before
                cases before
              constructor
              · intro _
                right
                exact ⟨Nat.succ_le_succ some, value, rfl⟩
              · exact fun _ => Nat.le_refl 1

theorem values_gathered (setting : Setting) (entries : List Entry) :
    (gathered setting entries).values = (offered setting entries).getLast?.toList := by
  rw [gathered_eq_foldl, values_foldl_use, offered]

theorem uses_gathered_eq_zero_iff (setting : Setting) (entries : List Entry) :
    (gathered setting entries).uses = 0 ↔ mentions setting entries = [] := by
  rw [gathered_eq_foldl, uses_foldl_use_eq_zero_iff]

/-- A value in the second part takes the place of one in the first. -/
theorem values_gathered_append (setting : Setting) (file typed : List Entry) :
    (gathered setting (file ++ typed)).values =
      if (gathered setting typed).values = [] then (gathered setting file).values
      else (gathered setting typed).values := by
  rw [values_gathered, values_gathered, values_gathered, offered_append, List.getLast?_append]
  cases (offered setting typed).getLast? <;> rfl

/-- A setting that is used in two parts counts once where the second gives a value, and it is not
the only one. -/
theorem uses_gathered_append_le_one_iff {setting : Setting} {file typed : List Entry}
    (fileOnce : (gathered setting file).uses ≤ 1)
    (typedOnce : (gathered setting typed).uses ≤ 1) :
    (gathered setting (file ++ typed)).uses ≤ 1 ↔
      (mentions setting file ≠ [] → mentions setting typed ≠ [] →
        offered setting typed ≠ [] ∧ 2 ≤ (offered setting (file ++ typed)).length) := by
  by_cases unused : mentions setting file = []
  · have same : gathered setting (file ++ typed) = gathered setting typed := by
      rw [gathered_eq_foldl, gathered_eq_foldl, mentions_append, unused, List.nil_append]
    rw [same]
    exact ⟨fun _ used => absurd unused used, fun _ => typedOnce⟩
  by_cases untyped : mentions setting typed = []
  · have same : gathered setting (file ++ typed) = gathered setting file := by
      rw [gathered_eq_foldl, gathered_eq_foldl, mentions_append, untyped, List.append_nil]
    rw [same]
    exact ⟨fun _ _ used => absurd untyped used, fun _ => fileOnce⟩
  have long : ¬ (mentions setting (file ++ typed)).length ≤ 1 := by
    rw [mentions_append, List.length_append]
    have one := List.length_pos_iff.mpr unused
    have another := List.length_pos_iff.mpr untyped
    omega
  have last : (mentions setting (file ++ typed)).getLast? = (mentions setting typed).getLast? := by
    rw [mentions_append, List.getLast?_append, List.getLast?_eq_some_getLast untyped]
    rfl
  rw [gathered_eq_foldl, uses_foldl_use_le_one_iff] at typedOnce
  rw [gathered_eq_foldl, uses_foldl_use_le_one_iff, last, or_iff_right long]
  constructor
  · rintro ⟨two, value, valued⟩ _ _
    refine ⟨?_, two⟩
    apply List.ne_nil_of_mem (a := value)
    exact List.mem_filterMap.mpr ⟨some value, List.mem_of_getLast? valued, rfl⟩
  · intro apart
    rcases apart unused untyped with ⟨some, two⟩
    refine ⟨two, ?_⟩
    rcases typedOnce with short | ⟨_, valued⟩
    · rw [offered] at some
      match mentions setting typed, untyped, some, short with
      | [.some value], _, _, _ => exact ⟨value, rfl⟩
      | [none], _, some, _ => exact absurd rfl some
    · exact valued

/-! ## Typed arguments over defaults -/

/-- The entries of arguments that have any. -/
def said (arguments : List Bytes) : List Entry :=
  (entries? arguments).getD []

/-- The two parts do not get into each other's way. -/
structure Compatible (file typed : List Bytes) : Prop where
  /-- No setting at the end of the file takes the first typed argument for its value. -/
  unswallowed : leftOver none file = none ∨ ¬ StartsPlain typed
  /-- A flag in both parts ends an argument of the second. -/
  flags : ∀ flag, tally flag (said file) ≠ 0 → tally flag (said typed) ≠ 0 →
    (said typed).any (Entry.endsWith flag) = true
  /-- A setting in both parts gets a value from the second, and two of them in all. -/
  settings : ∀ setting, mentions setting (said file) ≠ [] → mentions setting (said typed) ≠ [] →
    offered setting (said typed) ≠ [] ∧ 2 ≤ (offered setting (said file ++ said typed)).length

/-- What was typed stands, and the file fills in where nothing was typed. -/
structure Overrides (file typed merged : Request) : Prop where
  number : merged.number = typed.number.or file.number
  digits : merged.digits = (file.digits || typed.digits)
  showPath : merged.showPath = (file.showPath || typed.showPath)
  limit : merged.limit = typed.limit.or file.limit
  prompt : typed.prompt ≠ defaultPrompt → merged.prompt = typed.prompt
  someone : merged.prompt = file.prompt ∨ merged.prompt = typed.prompt

theorem entries?_append {file typed : List Bytes} {before after : List Entry}
    (noSeparator : separator ∉ file) (fileFound : entries? file = some before)
    (typedFound : entries? typed = some after)
    (apart : leftOver none file = none ∨ ¬ StartsPlain typed) :
    entries? (file ++ typed) = some (before ++ after) := by
  rcases exists_entriesFrom?_append noSeparator fileFound with ⟨complete, rfl, appended⟩
  rw [entries?] at typedFound ⊢
  rw [appended, entriesFrom?_of_not_swallowed apart, typedFound, Option.map_some, Option.map_some,
    List.append_assoc]

/-- A value that is awaited at the end of the file takes the place of the first number typed. -/
theorem exists_numbers_of_swallowed {file typed : List Bytes} {before after merged : List Entry}
    (noSeparator : separator ∉ file) (fileFound : entries? file = some before)
    (typedFound : entries? typed = some after) (found : entries? (file ++ typed) = some merged)
    (awaits : leftOver none file ≠ none) (plain : StartsPlain typed) :
    ∃ first rest, numbers after = first :: rest ∧ numbers merged = numbers before ++ rest := by
  rcases exists_entriesFrom?_append noSeparator fileFound with ⟨complete, rfl, appended⟩
  rcases plain with ⟨first, later, rfl, proper, noSwitch⟩
  rcases awaiting : leftOver none file with _ | ⟨flags, setting⟩
  · exact absurd awaiting awaits
  rw [entries?, entriesFrom?, if_neg proper, noSwitch, if_neg Bool.false_ne_true] at typedFound
  rw [entries?, appended, awaiting, entriesFrom?, if_neg proper, noSwitch,
    if_neg Bool.false_ne_true, Option.map_map] at found
  rcases Option.map_eq_some_iff.mp typedFound with ⟨more, followed, rfl⟩
  rw [followed] at found
  refine ⟨first, numbers more, rfl, ?_⟩
  rw [← Option.some.inj found, numbers_append]
  have nothing : numbers (Pending.unfulfilled (some (flags, setting))) = [] := rfl
  rw [nothing, List.append_nil]
  exact numbers_append complete _

theorem eq_none_iff_of_map_eq {α β : Type} {f : α → Option β} {values : List α}
    {result : Option β} (read : values.map f = result.toList.map some) :
    result = none ↔ values = [] := by
  rw [← Option.toList_eq_nil_iff, ← List.map_eq_nil_iff (f := f), read, List.map_eq_nil_iff]

namespace Means

variable {before after : List Entry} {file typed : Request}

theorem number_eq_none_iff (means : Means before file) :
    file.number = none ↔ numbers before = [] :=
  eq_none_iff_of_map_eq means.number

theorem limit_eq_none_iff (means : Means before file) :
    file.limit = none ↔ (gathered .limit before).values = [] :=
  eq_none_iff_of_map_eq means.limit

theorem prompt_eq_default (means : Means before file)
    (nothing : (gathered .prompt before).values = []) : file.prompt = defaultPrompt := by
  have same := means.prompt
  rw [nothing, List.headD_nil, Text.Utf8.decode?_encode] at same
  exact (Option.some.inj same).symm

/-- Where nothing counts twice, two parts mean the second with the first filled in. -/
theorem append (fileMeans : Means before file) (typedMeans : Means after typed)
    (oneNumber : file.number = none ∨ typed.number = none)
    (flags : ∀ flag, tally flag (before ++ after) ≤ 1)
    (settings : ∀ setting, (gathered setting (before ++ after)).uses ≤ 1) :
    Means (before ++ after)
      { showPath := file.showPath || typed.showPath
        digits := file.digits || typed.digits
        limit := typed.limit.or file.limit
        prompt := if (gathered .prompt after).values = [] then file.prompt else typed.prompt
        number := typed.number.or file.number } where
  flagsOnce := flags
  settingsOnce := settings
  limitGiven := by
    rw [values_gathered_append, uses_gathered_eq_zero_iff, mentions_append,
      List.append_eq_nil_iff, ← uses_gathered_eq_zero_iff, ← uses_gathered_eq_zero_iff]
    intro nothing
    split at nothing
    · rename_i untyped
      exact ⟨fileMeans.limitGiven nothing, typedMeans.limitGiven untyped⟩
    · rename_i valued
      exact absurd nothing valued
  showPath := by
    rw [fileMeans.showPath, typedMeans.showPath, tally_append_bne_zero]
  digits := by
    rw [fileMeans.digits, typedMeans.digits, tally_append_bne_zero]
  limit := by
    rw [values_gathered_append]
    split
    · rename_i untyped
      rw [typedMeans.limit_eq_none_iff.mpr untyped]
      exact fileMeans.limit
    · rename_i valued
      cases limit : typed.limit with
      | none => exact absurd (typedMeans.limit_eq_none_iff.mp limit) valued
      | some ceiling =>
          rw [typedMeans.limit, limit]
          rfl
  prompt := by
    rw [values_gathered_append]
    split
    · exact fileMeans.prompt
    · rename_i valued
      have typedPrompt := typedMeans.prompt
      exact typedPrompt
  number := by
    rw [numbers_append, List.map_append, fileMeans.number, typedMeans.number]
    rcases oneNumber with nothing | nothing
    · rw [nothing, Option.or_none]
      rfl
    · rw [nothing, Option.none_or]
      exact List.append_nil _

end Means

/-- A number that was taken for a value is lost, and does not override anything. -/
theorem lost_of_swallowed {before after entries : List Entry} {file typed merged : Request}
    (fileMeans : Means before file) (typedMeans : Means after typed)
    (means : Means entries merged) (oneNumber : file.number = none ∨ typed.number = none)
    (swallowed : ∃ first rest, numbers after = first :: rest ∧
      numbers entries = numbers before ++ rest) :
    merged.number ≠ typed.number.or file.number := by
  rcases swallowed with ⟨first, rest, typedNumbers, mergedNumbers⟩
  have numbered : typed.number ≠ none := by
    rw [Ne, typedMeans.number_eq_none_iff, typedNumbers]
    exact List.cons_ne_nil first rest
  have noOther : rest = [] := by
    have few := typedMeans.length_numbers_le
    rw [typedNumbers, List.length_cons] at few
    exact List.eq_nil_of_length_eq_zero (by omega)
  have unnumbered : merged.number = none := by
    rw [means.number_eq_none_iff, mergedNumbers, noOther, List.append_nil,
      ← fileMeans.number_eq_none_iff]
    exact oneNumber.resolve_right numbered
  intro kept
  rw [unnumbered, eq_comm, Option.or_eq_none_iff] at kept
  exact numbered kept.1

/-- Typed arguments override those of the file, where both are accepted alone and not both have a
number, exactly when the two are compatible. -/
theorem typed_overrides_file_iff (program : Bytes) {file typed : List Bytes} {f c : Request}
    (noSeparator : separator ∉ file) (fileRead : read (program :: file) = .ok f)
    (typedRead : read (program :: typed) = .ok c) (oneNumber : f.number = none ∨ c.number = none) :
    (∃ r, read (merge file (program :: typed)) = .ok r ∧ Overrides f c r) ↔
      Compatible file typed := by
  rcases (read_eq_ok_iff _ _ _).mp fileRead with ⟨before, fileFound, fileMeans⟩
  rcases (read_eq_ok_iff _ _ _).mp typedRead with ⟨after, typedFound, typedMeans⟩
  have fileSaid : said file = before := by rw [said, fileFound]; rfl
  have typedSaid : said typed = after := by rw [said, typedFound]; rfl
  have joined : merge file (program :: typed) = program :: (file ++ typed) := rfl
  rw [joined]
  constructor
  · rintro ⟨r, accepted, overrides⟩
    rcases (read_eq_ok_iff _ _ _).mp accepted with ⟨entries, found, means⟩
    have apart : leftOver none file = none ∨ ¬ StartsPlain typed := by
      rw [Classical.or_iff_not_imp_left]
      intro awaits plain
      exact lost_of_swallowed fileMeans typedMeans means oneNumber
        (exists_numbers_of_swallowed noSeparator fileFound typedFound found awaits plain)
        overrides.number
    rw [entries?_append noSeparator fileFound typedFound apart] at found
    rw [← Option.some.inj found] at means
    refine ⟨apart, ?_, ?_⟩
    · intro flag
      rw [fileSaid, typedSaid]
      exact (tally_append_le_one_iff (fileMeans.flagsOnce flag) (typedMeans.flagsOnce flag)).mp
        (means.flagsOnce flag)
    · intro setting
      rw [fileSaid, typedSaid]
      exact (uses_gathered_append_le_one_iff (fileMeans.settingsOnce setting)
        (typedMeans.settingsOnce setting)).mp (means.settingsOnce setting)
  · rintro ⟨apart, flags, settings⟩
    rw [fileSaid, typedSaid] at flags settings
    have means := fileMeans.append typedMeans oneNumber
      (fun flag => (tally_append_le_one_iff (fileMeans.flagsOnce flag)
        (typedMeans.flagsOnce flag)).mpr (flags flag))
      (fun setting => (uses_gathered_append_le_one_iff (fileMeans.settingsOnce setting)
        (typedMeans.settingsOnce setting)).mpr (settings setting))
    refine ⟨_, (read_eq_ok_iff _ _ _).mpr
      ⟨_, entries?_append noSeparator fileFound typedFound apart, means⟩,
      rfl, rfl, rfl, rfl, ?_, ?_⟩
    · intro different
      have valued : (gathered .prompt after).values ≠ [] := fun nothing =>
        different (typedMeans.prompt_eq_default nothing)
      exact if_neg valued
    · by_cases nothing : (gathered .prompt after).values = []
      · exact .inl (if_pos nothing)
      · exact .inr (if_neg nothing)

/-- A ceiling and a prompt from the file, of which the ceiling is typed anew with a flag before it.
-/
theorem typed_limit_overrides_file :
    ∃ r, read (merge [encode "--limit", encode "1000", encode "-pn? ", encode "-d"]
        [encode "factorial", encode "--limit=7", encode "-d", encode "5"]) = .ok r ∧
      Overrides
        { showPath := false, digits := true, limit := some 1000, prompt := "n? ", number := none }
        { showPath := false, digits := true, limit := some 7, prompt := defaultPrompt,
          number := some "5" } r :=
  (typed_overrides_file_iff (encode "factorial") (by decide) rfl rfl (.inl rfl)).mpr
    { unswallowed := .inl (by decide)
      flags := by
        intro flag
        cases flag <;> decide
      settings := by
        intro setting
        cases setting <;> decide }

/-- Typed arguments do not always override the file: a flag counts twice where the second use of it
does not end its argument, and then nothing is accepted. -/
theorem clustered_flag_not_overriding :
    ¬ ∀ (program : Bytes) (file typed : List Bytes) (f c : Request), separator ∉ file →
      read (program :: file) = .ok f → read (program :: typed) = .ok c →
      (f.number = none ∨ c.number = none) →
      ∃ r, read (merge file (program :: typed)) = .ok r ∧ Overrides f c r := by
  intro always
  have refused : read (merge [encode "-d"] [encode "factorial", encode "-dl5"]) =
      .error (.misuse (.repeated (.flag .digits))
        [.flag .digits, .setting .limit, .setting .prompt]) := rfl
  rcases always (encode "factorial") [encode "-d"] [encode "-dl5"]
      { showPath := false, digits := true, limit := none, prompt := defaultPrompt, number := none }
      { showPath := false, digits := true, limit := some 5, prompt := defaultPrompt,
        number := none }
      (by decide) rfl rfl (.inl rfl) with ⟨r, accepted, _⟩
  rw [refused] at accepted
  cases accepted

end CommandLine
end ExactFactorial
