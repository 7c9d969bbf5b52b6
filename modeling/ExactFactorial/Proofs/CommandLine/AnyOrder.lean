import ExactFactorial.Proofs.CommandLine.LastWins
import Mathlib.Data.List.Perm.Basic

namespace ExactFactorial
namespace CommandLine

open Text.Utf8 (encode)

/-!
# Tokens in any order

Where no setting has two tokens and there is one number at most, the order of the tokens does not
matter.  A number is such a token however small it is: the hyphen in front of it does not make it a
switch, neither where a value is awaited nor elsewhere.
-/

/-! ## Orders of the same tokens -/

/-- A single element that is picked from a list is picked from it in any order. -/
theorem filterMap_eq_of_perm {α β : Type} {pick : α → Option β} {order elements : List α}
    (shuffled : order.Perm elements) (single : (elements.filterMap pick).length ≤ 1) :
    order.filterMap pick = elements.filterMap pick := by
  have picked := shuffled.filterMap pick
  match found : elements.filterMap pick with
  | [] =>
      rw [found] at picked
      exact picked.eq_nil
  | [element] =>
      rw [found] at picked
      exact picked.eq_singleton
  | _ :: _ :: _ =>
      rw [found] at single
      simp at single

/-- An order of images is the image of an order. -/
theorem exists_order_of_perm_map {α β : Type} {f : α → β} {order : List β} {elements : List α}
    (shuffled : order.Perm (elements.map f)) :
    ∃ before : List α, before.Perm elements ∧ order = before.map f := by
  have paired : List.Forall₂ (· = f ·) (elements.map f) elements := by
    simp
  obtain ⟨before, images, same⟩ := List.perm_comp_forall₂ shuffled paired
  refine ⟨before, same, ?_⟩
  rw [← List.forall₂_eq_eq_eq, List.forall₂_map_right_iff]
  exact images

/-- Reading does not depend on the order of the tokens. -/
theorem read_of_perm (program : Bytes) {order tokens : List Token} {ceiling : Option Nat}
    (shuffled : order.Perm tokens)
    (settingsOnce : ∀ setting, (tokens.filterMap (Token.value? setting)).length ≤ 1)
    (oneNumber : (tokens.filterMap Token.number?).length ≤ 1)
    (limitRead : (lastValue? .limit tokens).map (fun value => Numeral.readUnsigned value.toList) =
      ceiling.map .ok) :
    read (program :: written order none) = .ok (requested tokens none ceiling) := by
  have values : ∀ setting, lastValue? setting order = lastValue? setting tokens := by
    intro setting
    rw [lastValue?, lastValue?, filterMap_eq_of_perm shuffled (settingsOnce setting)]
  have numbers := filterMap_eq_of_perm shuffled oneNumber
  have same : requested order none ceiling = requested tokens none ceiling := by
    simp only [requested, shuffled.any_eq, values, numbers]
  rw [← same, read_eq_ok_iff]
  refine ⟨_, entries?_written order none, means_requested order none ?_ ?_⟩
  · rw [values, limitRead]
  · rw [numbers, Option.toList_none, List.append_nil]
    exact oneNumber

/-! ## A ceiling, a flag and a number -/

theorem standsAlone_toString_nat (n : Nat) : StandsAlone (toString n) := by
  left
  rw [Numeral.toList_toString_nat]
  have spelled := Numeral.spells_toDigits n
  cases digits : Nat.toDigits 10 n with
  | nil => simp
  | cons c rest =>
      rw [digits] at spelled
      simpa using spelled.head_ne rfl

theorem standsAlone_toString_int64 (n : Int64) : StandsAlone (toString n.toInt) := by
  -- The sign is a hyphen, so that only the look of the whole text tells a number from a switch.
  right; right; left
  rw [Numeral.readSigned_toString]
  rfl

/-- The arguments for a ceiling, for the number of digits and for a number, as they belong
together. -/
def groups (ceiling : Option UInt64) (digits : Bool) (number : Option Int64) :
    List (List String) :=
  ceiling.toList.map (fun limit => ["--limit", toString limit.toNat]) ++
    (if digits then [["--digits"]] else []) ++
    number.toList.map fun n => [toString n.toInt]

section

variable (ceiling : Option UInt64) (digits : Bool) (number : Option Int64)

/-- The tokens that these arguments are. -/
def groupTokens : List Token :=
  ceiling.toList.map (fun limit =>
      .valued .limit .nameThenValue (toString limit.toNat) (standsAlone_toString_nat _)) ++
    (if digits then [.digits false] else []) ++
    number.toList.map fun n => .number (toString n.toInt) (standsAlone_toString_int64 n)

theorem groups_eq :
    groups ceiling digits number = (groupTokens ceiling digits number).map Token.write := by
  cases ceiling <;> cases digits <;> cases number <;> rfl

theorem values_groupTokens (setting : Setting) :
    (groupTokens ceiling digits number).filterMap (Token.value? setting) =
      if setting = .limit then (ceiling.map fun limit => toString limit.toNat).toList else [] := by
  cases setting <;> cases ceiling <;> cases digits <;> cases number <;> rfl

theorem numbers_groupTokens :
    (groupTokens ceiling digits number).filterMap Token.number? =
      (number.map fun n => toString n.toInt).toList := by
  cases ceiling <;> cases digits <;> cases number <;> rfl

theorem requested_groupTokens (limit : Option Nat) :
    requested (groupTokens ceiling digits number) none limit =
      { showPath := false, digits := digits, limit := limit, prompt := defaultPrompt,
        number := number.map fun n => toString n.toInt } := by
  cases ceiling <;> cases digits <;> cases number <;> rfl

end

/-- Whatever their order, these arguments ask for what they say. -/
theorem read_groups (program : Bytes) {order : List (List String)} {ceiling : Option UInt64}
    {digits : Bool} {number : Option Int64} (shuffled : order.Perm (groups ceiling digits number)) :
    read (program :: order.flatten.map encode) =
      .ok { showPath := false, digits := digits, limit := ceiling.map UInt64.toNat,
            prompt := defaultPrompt, number := number.map fun n => toString n.toInt } := by
  rw [groups_eq] at shuffled
  obtain ⟨tokens, shuffledTokens, rfl⟩ := exists_order_of_perm_map shuffled
  have arguments : (tokens.map Token.write).flatten.map encode = written tokens none := by
    simp [written, List.flatMap_def]
  rw [arguments, ← requested_groupTokens ceiling digits number]
  apply read_of_perm program shuffledTokens
  · intro setting
    rw [values_groupTokens]
    split
    · exact Option.length_toList_le
    · exact Nat.zero_le 1
  · rw [numbers_groupTokens]
    exact Option.length_toList_le
  · rw [lastValue?, values_groupTokens, if_pos rfl]
    cases ceiling with
    | none => rfl
    | some limit => exact congrArg some (Numeral.readUnsigned_toString limit)

end CommandLine
end ExactFactorial
