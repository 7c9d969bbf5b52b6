import ExactFactorial.Proofs.CommandLine.Defaults
import ExactFactorial.Proofs.CommandLine.LastWins

namespace ExactFactorial
namespace CommandLine

open Text.Utf8 (encode)

/-!
# The ceiling that was asked for last

A ceiling at the end of a command line is in force, or the command line is not accepted.  What comes
before it may be anything without a separator, and need not be acceptable by itself.  An argument
that is a switch never becomes the value of a setting before it, so that it adds an entry of its own
behind the entries of the rest.  The limit then has the value of that last entry.  If the entry has
no value, the limit counts twice or has none at all, and neither is accepted.
-/

/-! ## A switch at the end -/

/-- The beginning of arguments that have entries has entries too, as long as it has no separator. -/
theorem exists_entriesFrom?_of_append {pending : Pending} {front back : List Bytes}
    {entries : List Entry} (noSeparator : separator ∉ front)
    (found : entriesFrom? pending (front ++ back) = some entries) :
    ∃ before, entriesFrom? pending front = some before := by
  induction front generalizing pending entries with
  | nil => exact ⟨_, rfl⟩
  | cons argument later inductionHypothesis =>
      simp only [List.mem_cons, not_or] at noSeparator
      have proper : argument ≠ separator := Ne.symm noSeparator.1
      rw [List.cons_append, entriesFrom?, if_neg proper] at found
      rw [entriesFrom?, if_neg proper]
      by_cases switch : isSwitch argument = true
      · rw [if_pos switch] at found ⊢
        obtain ⟨uses, asked, rest⟩ := Option.bind_eq_some_iff.mp found
        obtain ⟨more, followed, _⟩ := Option.map_eq_some_iff.mp rest
        obtain ⟨before, known⟩ := inductionHypothesis noSeparator.2 followed
        rw [asked, Option.bind_some, known]
        exact ⟨_, rfl⟩
      · rw [if_neg switch] at found ⊢
        obtain ⟨more, followed, _⟩ := Option.map_eq_some_iff.mp found
        obtain ⟨before, known⟩ := inductionHypothesis noSeparator.2 followed
        rw [known]
        exact ⟨_, rfl⟩

theorem not_startsPlain_of_isSwitch {argument : Bytes} {later : List Bytes}
    (switch : isSwitch argument = true) : ¬ StartsPlain (argument :: later) := by
  rintro ⟨first, rest, same, _, plain⟩
  rw [← (List.cons.inj same).1, switch] at plain
  cases plain

/-- A switch at the end adds its entries to those of what comes before it. -/
theorem entries?_concat {arguments : List Bytes} {argument : Bytes} {uses : Uses}
    {before : List Entry} (noSeparator : separator ∉ arguments)
    (switch : isSwitch argument = true) (asked : switchUses? argument = some uses)
    (found : entries? arguments = some before) :
    entries? (arguments ++ [argument]) =
      some (before ++ (uses.complete ++ uses.pending.unfulfilled)) := by
  have alone : entries? [argument] = some (uses.complete ++ uses.pending.unfulfilled) :=
    entriesFrom?_of_switch switch asked []
  exact entries?_append noSeparator found alone (.inr (not_startsPlain_of_isSwitch switch))

/-- An accepted command line that ends with a switch means what comes before it and its entries. -/
theorem exists_means_of_concat {program : Bytes} {arguments : List Bytes} {argument : Bytes}
    {uses : Uses} {request : Request} (noSeparator : separator ∉ arguments)
    (switch : isSwitch argument = true) (asked : switchUses? argument = some uses)
    (accepted : read (program :: (arguments ++ [argument])) = .ok request) :
    ∃ before, Means (before ++ (uses.complete ++ uses.pending.unfulfilled)) request := by
  obtain ⟨entries, found, means⟩ := (read_eq_ok_iff _ _ _).mp accepted
  obtain ⟨before, known⟩ := exists_entriesFrom?_of_append noSeparator found
  rw [entries?_concat noSeparator switch asked known] at found
  rw [← Option.some.inj found] at means
  exact ⟨before, means⟩

/-! ## A limit at the end -/

/-- A value at the end is the one that stays. -/
theorem values_gathered_concat (setting : Setting) (before : List Entry) (flags : List Flag)
    (value : Bytes) :
    (gathered setting (before ++ [.switches flags (some (setting, some value))])).values =
      [value] := by
  have offers : offered setting [.switches flags (some (setting, some value))] = [value] := by
    simp [offered, mentions, Entry.mention?]
  rw [values_gathered, offered_append, offers, List.getLast?_concat]
  rfl

theorem Means.limit_of_concat {before : List Entry} {flags : List Flag} {value : Bytes}
    {request : Request}
    (means : Means (before ++ [.switches flags (some (.limit, some value))]) request) :
    ∃ ceiling, limitValue? value = some ceiling ∧ request.limit = some ceiling := by
  have read := means.limit
  rw [values_gathered_concat] at read
  cases limit : request.limit with
  | none =>
      rw [limit] at read
      cases read
  | some ceiling =>
      rw [limit] at read
      exact ⟨ceiling, (List.cons.inj read).1, rfl⟩

/-- A limit at the end that lacks its value has no meaning, whatever was given before. -/
theorem not_means_of_missing {before : List Entry} {flags : List Flag} {request : Request} :
    ¬ Means (before ++ [.switches flags (some (.limit, none))]) request := by
  intro means
  have uses : mentions .limit (before ++ [.switches flags (some (.limit, none))]) =
      mentions .limit before ++ [none] :=
    mentions_append _ _ _
  have once := means.settingsOnce .limit
  rw [gathered_eq_foldl, uses_foldl_use_le_one_iff, uses] at once
  -- Either this is the only use, and then there is no value at all, or it should have brought one.
  rcases once with short | ⟨_, value, impossible⟩
  · have nothing : mentions .limit before = [] := by
      rw [List.length_append, List.length_singleton] at short
      exact List.eq_nil_of_length_eq_zero (by omega)
    have unvalued : (gathered .limit
        (before ++ [.switches flags (some (.limit, none))])).values = [] := by
      rw [values_gathered, offered, uses, nothing]
      rfl
    have unused := (uses_gathered_eq_zero_iff _ _).mp (means.limitGiven unvalued)
    rw [uses] at unused
    exact List.concat_ne_nil none _ unused
  · rw [List.getLast?_concat] at impossible
    cases impossible

theorem limitValue?_encode_eq_some_iff (value : String) (ceiling : Nat) :
    limitValue? (encode value) = some ceiling ↔
      Numeral.SpellsUnsigned value.toList ceiling := by
  rw [limitValue?, Text.Utf8.lossy_encode, ← Numeral.readUnsigned_eq_ok_iff]
  constructor
  · exact eq_ok_of_toOption_eq_some
  · intro read
    rw [read]
    rfl

/-- A value replaces an earlier one, and a setting without a value has not been used before. -/
theorem Given.uses_use_le_one {given : Given} (value : Bytes)
    (single : given.values.length ≤ 1) (valued : given.values = [] → given.uses = 0) :
    (given.use (some value)).uses ≤ 1 := by
  match values : given.values with
  | [] =>
      rw [Given.use_first value values, valued values]
  | [old] => rw [Given.use_again value values]
  | _ :: _ :: _ =>
      rw [values] at single
      simp at single

/-- A limit can be added to what has a meaning, and changes nothing else in it. -/
theorem Means.concat_limit {before : List Entry} {request : Request} {value : Bytes}
    {ceiling : Nat} (means : Means before request) (spelled : limitValue? value = some ceiling) :
    Means (before ++ [.switches [] (some (.limit, some value))])
      { request with limit := some ceiling } where
  flagsOnce := by
    intro flag
    rw [tally_concat]
    exact means.flagsOnce flag
  settingsOnce := by
    intro setting
    rw [gathered_concat]
    cases setting with
    | limit =>
        exact Given.uses_use_le_one value (length_gathered_le .limit before) means.limitGiven
    | prompt => exact means.settingsOnce .prompt
  limitGiven := by
    rw [values_gathered_concat]
    intro nothing
    cases nothing
  showPath := by
    rw [tally_concat]
    exact means.showPath
  digits := by
    rw [tally_concat]
    exact means.digits
  limit := by
    rw [values_gathered_concat]
    simp [spelled]
  prompt := by
    rw [gathered_concat]
    exact means.prompt
  number := by
    have silent : numbers [.switches [] (some (.limit, some value))] = [] := rfl
    rw [numbers_append, silent, List.append_nil]
    exact means.number

theorem read_ne_ok_of_missing {program : Bytes} {arguments : List Bytes} {argument : Bytes}
    (noSeparator : separator ∉ arguments) (switch : isSwitch argument = true)
    (asked : switchUses? argument = some ⟨[], some (.limit, none)⟩) (request : Request) :
    read (program :: (arguments ++ [argument])) ≠ .ok request := by
  intro accepted
  obtain ⟨before, means⟩ := exists_means_of_concat noSeparator switch asked accepted
  exact not_means_of_missing means

/-- The ceiling that was given last is in force, whatever comes before it.  Where a command line
that ends with a ceiling is accepted, that ceiling is a numeral, and it is the limit of the request
and of the calculator that serves it.  Where a ceiling at the end lacks its value, nothing is
accepted.  And an accepted command line stays so when a ceiling is added, with nothing else
changed. -/
theorem last_limit_in_force (program : Bytes) (arguments : List Bytes)
    (noSeparator : separator ∉ arguments) :
    (∀ value : String, value.toList.head? ≠ some '=' →
      (∀ request, read (program :: (arguments ++ [encode ("--limit=" ++ value)])) = .ok request →
        ∃ ceiling, Numeral.SpellsUnsigned value.toList ceiling ∧ request.limit = some ceiling ∧
          request.session.calculator.ceiling = some ceiling) ∧
      (∀ request ceiling, Numeral.SpellsUnsigned value.toList ceiling →
        read (program :: arguments) = .ok request →
        read (program :: (arguments ++ [encode ("--limit=" ++ value)])) =
          .ok { request with limit := some ceiling })) ∧
    (∀ request, read (program :: (arguments ++ [encode "--limit"])) ≠ .ok request) ∧
    (∀ request, read (program :: (arguments ++ [encode "-l"])) ≠ .ok request) := by
  refine ⟨fun value plain => ?_, read_ne_ok_of_missing noSeparator (by decide) (by decide),
    read_ne_ok_of_missing noSeparator (by decide) (by decide)⟩
  have asked := switchUses?_name_value .limit plain
  have switch : isSwitch (encode ("--limit=" ++ value)) = true := by
    apply isSwitch_of_long
    rw [Text.Utf8.encode_append]
    rfl
  refine ⟨fun request accepted => ?_, fun request ceiling spelled accepted => ?_⟩
  · obtain ⟨before, means⟩ := exists_means_of_concat noSeparator switch asked accepted
    obtain ⟨ceiling, read, limit⟩ := means.limit_of_concat
    exact ⟨ceiling, (limitValue?_encode_eq_some_iff value ceiling).mp read, limit, limit⟩
  · obtain ⟨before, found, means⟩ := (read_eq_ok_iff _ _ _).mp accepted
    have read := (limitValue?_encode_eq_some_iff value ceiling).mpr spelled
    exact (read_eq_ok_iff _ _ _).mpr
      ⟨_, entries?_concat noSeparator switch asked found, means.concat_limit read⟩

/-- A ceiling after a flag and one that is no numeral. -/
theorem last_limit_after_bad_one :
    ∃ request,
      read (encode "factorial" ::
          ([encode "--limit=many", encode "-d"] ++ [encode ("--limit=" ++ "12")])) =
        .ok request ∧
      request.digits = true ∧
      ∃ ceiling, Numeral.SpellsUnsigned "12".toList ceiling ∧ request.limit = some ceiling ∧
        request.session.calculator.ceiling = some ceiling :=
  ⟨_, rfl, rfl, ((last_limit_in_force (encode "factorial")
    [encode "--limit=many", encode "-d"] (by decide)).1 "12" (by decide)).1 _ rfl⟩

end CommandLine
end ExactFactorial
