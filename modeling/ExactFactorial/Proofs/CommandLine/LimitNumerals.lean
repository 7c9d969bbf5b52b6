import ExactFactorial.Proofs.CommandLine.LastWins
import ExactFactorial.Proofs.Numeral.Faults

namespace ExactFactorial
namespace CommandLine

open Text.Utf8 (encode)

/-!
# What may be given as a ceiling

The ceiling is an unsigned numeral, exactly as it was typed.  The rules differ from those of the
number to be computed: no blanks are taken off, a minus sign is no sign at all, and the range is
twice as large.  A command line with a ceiling and nothing else is therefore accepted exactly when
the value is such a numeral.  Otherwise it is refused for that value alone, and the flaw that is
reported is the one that shows first from the left.
-/

/-- A ceiling, and the default of everything else. -/
def ceilingOnly (ceiling : Nat) : Request where
  showPath := false
  digits := false
  limit := some ceiling
  prompt := defaultPrompt
  number := none

/-- The switches that are there at the end if only a ceiling was given.  The prompt is there by its
default. -/
def ceilingGiven : List Switch :=
  [.setting .limit, .setting .prompt]

namespace Progress

/-- A ceiling and nothing else, once the reading is over. -/
def withCeiling (value : Bytes) : Progress :=
  (give {} .limit (some value)).settle.withPrompt

theorem misuse?_withCeiling (value : Bytes) :
    (withCeiling value).misuse? = (limitFlaw? value).map Misuse.badLimit := by
  have limit : (withCeiling value).fault? (.setting .limit) =
      (limitFlaw? value).map Misuse.badLimit := by
    have given : (withCeiling value).settings .limit = ⟨1, [value]⟩ := rfl
    have single : [value].findSome? limitFlaw? = limitFlaw? value := List.findSome?_singleton
    rw [fault?, given, ← single]
    cases [value].findSome? limitFlaw? <;> rfl
  have prompt : (withCeiling value).fault? (.setting .prompt) = none := rfl
  have flags : ∀ flag, (withCeiling value).fault? (.flag flag) = none := fun _ => rfl
  change Switch.all.findSome? (withCeiling value).fault? = _
  simp only [Switch.all, List.findSome?_cons, List.findSome?_nil, flags, limit, prompt]
  cases limitFlaw? value <;> rfl

/-- What a ceiling comes to, by the numeral that its value is or by what is wrong with it. -/
theorem request_withCeiling (value : Bytes) :
    (withCeiling value).request =
      match Numeral.readUnsigned (Text.Utf8.lossy value).toList with
      | .ok ceiling => .ok (ceilingOnly ceiling)
      | .error flaw => .error (.misuse (.badLimit flaw) ceilingGiven) := by
  have prompt : Text.Utf8.decode? (withCeiling value).promptBytes = some defaultPrompt :=
    Text.Utf8.decode?_encode defaultPrompt
  have limit : (withCeiling value).limit? =
      (Numeral.readUnsigned (Text.Utf8.lossy value).toList).toOption := rfl
  have number : (withCeiling value).number.map Text.Utf8.decode? = none := rfl
  simp only [Progress.request, misuse?_withCeiling, limitFlaw?, prompt, limit, number]
  cases Numeral.readUnsigned (Text.Utf8.lossy value).toList <;> rfl

end Progress

/-- A ceiling after an equal sign is taken as it stands, and the rest keeps its default. -/
theorem read_ceiling (program : Bytes) {value : String} (plain : value.toList.head? ≠ some '=') :
    read [program, encode ("--limit=" ++ value)] =
      match Numeral.readUnsigned value.toList with
      | .ok ceiling => .ok (ceilingOnly ceiling)
      | .error flaw => .error (.misuse (.badLimit flaw) ceilingGiven) := by
  have asked : switchUses? (encode ("--limit=" ++ value)) =
      some ⟨[], some (.limit, some (encode value))⟩ := switchUses?_name_value .limit plain
  have long : (encode ("--limit=" ++ value)).take 2 = separator := by
    rw [Text.Utf8.encode_append]
    rfl
  have proper : encode ("--limit=" ++ value) ≠ separator := by
    rw [Text.Utf8.encode_append]
    exact fun same => nomatch (List.cons.inj (List.cons.inj same).2).2
  have taken : Progress.step {} (encode ("--limit=" ++ value)) =
      .ok (Progress.give {} .limit (some (encode value))) := by
    apply eq_ok_of_toOption_eq_some
    rw [Progress.toOption_step_switch rfl proper (isSwitch_of_long long), asked]
    rfl
  have spelled := Progress.request_withCeiling (encode value)
  rw [Text.Utf8.lossy_encode] at spelled
  rw [read, List.tail_cons, scan, taken]
  exact spelled

/-- A ceiling is an unsigned numeral, taken without trimming.  A command line that gives only a
ceiling is accepted exactly then, with every other part of the request at its default.  Any other
value is refused with the flaw that explains it, in the words for that flaw.  The decimal text of
every number in range is such a numeral. -/
theorem ceiling_exactly_unsigned (program : Bytes) :
    (∀ value : String, value.toList.head? ≠ some '=' →
      (∀ request, read [program, encode ("--limit=" ++ value)] = .ok request ↔
        ∃ ceiling, Numeral.SpellsUnsigned value.toList ceiling ∧ request = ceilingOnly ceiling) ∧
      (∀ stop, read [program, encode ("--limit=" ++ value)] = .error stop ↔
        ∃ flaw : Numeral.Flaw, flaw.ExplainsUnsigned value.toList ∧
          stop = .misuse (.badLimit flaw) ceilingGiven)) ∧
    (∀ (flaw : Numeral.Flaw) (name : String) (given : List Switch),
      (Misuse.badLimit flaw).message name given =
        "error: Invalid value for '--limit <N>': " ++ flaw.message) ∧
    (∀ n : UInt64,
      read [program, encode ("--limit=" ++ toString n.toNat)] = .ok (ceilingOnly n.toNat)) := by
  refine ⟨fun value plain => ⟨fun request => ?_, fun stop => ?_⟩, fun _ _ _ => rfl, fun n => ?_⟩
  · simp only [← Numeral.readUnsigned_eq_ok_iff]
    rw [read_ceiling program plain]
    cases Numeral.readUnsigned value.toList <;> simp [eq_comm]
  · simp only [← Numeral.readUnsigned_eq_error_iff]
    rw [read_ceiling program plain]
    cases Numeral.readUnsigned value.toList <;> simp [eq_comm]
  · have plain : (toString n.toNat).toList.head? ≠ some '=' := by
      intro starts
      exact absurd (Numeral.isDigit_of_mem_toString_nat (List.mem_of_head? starts)) (by decide)
    rw [read_ceiling program plain, Numeral.readUnsigned_toString]

/-- The largest ceiling with a plus sign and a zero before it, one beyond it with a letter that is
not looked at any more, and a blank and a minus sign, which are no digits. -/
theorem ceilings_at_the_edge :
    read [encode "factorial", encode ("--limit=" ++ "+018446744073709551615")] =
      .ok (ceilingOnly 18446744073709551615) ∧
    read [encode "factorial", encode ("--limit=" ++ "18446744073709551616x")] =
      .error (.misuse (.badLimit .tooLarge) ceilingGiven) ∧
    read [encode "factorial", encode ("--limit=" ++ " 5")] =
      .error (.misuse (.badLimit .invalidDigit) ceilingGiven) ∧
    read [encode "factorial", encode ("--limit=" ++ "-5")] =
      .error (.misuse (.badLimit .invalidDigit) ceilingGiven) := by
  have law := (ceiling_exactly_unsigned (encode "factorial")).1
  have refused : ∀ (value : String) (flaw : Numeral.Flaw), value.toList.head? ≠ some '=' →
      Numeral.readUnsigned value.toList = .error flaw →
      read [encode "factorial", encode ("--limit=" ++ value)] =
        .error (.misuse (.badLimit flaw) ceilingGiven) := by
    intro value flaw plain failed
    exact ((law value plain).2 _).mpr
      ⟨flaw, (Numeral.readUnsigned_eq_error_iff _ _).mp failed, rfl⟩
  refine ⟨?_, refused _ _ (by decide) (by decide), refused _ _ (by decide) (by decide),
    refused _ _ (by decide) (by decide)⟩
  exact ((law "+018446744073709551615" (by decide)).1 _).mpr
    ⟨18446744073709551615, (Numeral.readUnsigned_eq_ok_iff _ _).mp (by decide), rfl⟩

end CommandLine
end ExactFactorial
