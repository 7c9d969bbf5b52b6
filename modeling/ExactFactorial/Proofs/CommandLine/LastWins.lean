import ExactFactorial.Proofs.CommandLine.Meaning
import ExactFactorial.Proofs.Numeral.Digits

namespace ExactFactorial
namespace CommandLine

open Text.Utf8 (encode)

/-!
# The last one wins

A command line is usually written token by token: a flag, a setting with its value in one of five
spellings, or a number.  Each token says in its fields what keeps it from being read as something
else, so that it stands for one entry whatever comes before it and after it.  Of two tokens for one
setting the later decides, and repeating a flag changes nothing.
-/

/-! ## Tokens -/

/-- Whether a text may be an argument of its own without being read as a switch. -/
def StandsAlone (text : String) : Prop :=
  text.toList.head? ≠ some '-' ∨ text = "-" ∨
    (Numeral.readSigned text.toList).isOk = true ∨ Numeral.isNumberLike text = true

instance (text : String) : Decidable (StandsAlone text) :=
  inferInstanceAs (Decidable (_ ∨ _))

/-- The ways to write a setting with its value. -/
inductive Spelling where
  | nameThenValue
  | nameEqualValue
  | letterThenValue
  | letterValue
  | letterEqualValue
  deriving Repr, DecidableEq

namespace Spelling

/-- Whether a value keeps its meaning in this spelling. -/
def Suits (value : String) : Spelling → Prop
  | .nameThenValue | .letterThenValue => StandsAlone value
  | .nameEqualValue | .letterEqualValue => value.toList.head? ≠ some '='
  | .letterValue => value.toList.head? ≠ some '=' ∧ value ≠ ""

instance (value : String) (spelling : Spelling) : Decidable (spelling.Suits value) :=
  match spelling with
  | .nameThenValue | .letterThenValue => inferInstanceAs (Decidable (StandsAlone value))
  | .nameEqualValue | .letterEqualValue => inferInstanceAs (Decidable (_ ≠ _))
  | .letterValue => inferInstanceAs (Decidable (_ ∧ _))

/-- The arguments for a switch with this name and letter. -/
def write (name letter value : String) : Spelling → List String
  | .nameThenValue => ["--" ++ name, value]
  | .nameEqualValue => ["--" ++ name ++ "=" ++ value]
  | .letterThenValue => ["-" ++ letter, value]
  | .letterValue => ["-" ++ letter ++ value]
  | .letterEqualValue => ["-" ++ letter ++ "=" ++ value]

end Spelling

def Setting.name : Setting → String
  | .limit => "limit"
  | .prompt => "prompt"

def Setting.letter : Setting → String
  | .limit => "l"
  | .prompt => "p"

inductive Token where
  | showPath
  | digits (short : Bool)
  | valued (setting : Setting) (spelling : Spelling) (value : String)
      (suits : spelling.Suits value)
  | number (text : String) (alone : StandsAlone text)

namespace Token

def write : Token → List String
  | .showPath => ["--config-file"]
  | .digits short => [if short then "-d" else "--digits"]
  | .valued setting spelling value _ => spelling.write setting.name setting.letter value
  | .number text _ => [text]

/-- The flag that a token raises. -/
def flag? : Token → Option Flag
  | .showPath => some .showPath
  | .digits _ => some .digits
  | .valued _ _ _ _ | .number _ _ => none

/-- The value that a token gives to a setting. -/
def value? (wanted : Setting) : Token → Option String
  | .valued setting _ value _ => if setting = wanted then some value else none
  | .showPath | .digits _ | .number _ _ => none

def number? : Token → Option String
  | .number text _ => some text
  | .showPath | .digits _ | .valued _ _ _ _ => none

/-- The entry that a token stands for. -/
def entry : Token → Entry
  | .showPath => .switches [.showPath] none
  | .digits _ => .switches [.digits] none
  | .valued setting _ value _ => .switches [] (some (setting, some (encode value)))
  | .number text _ => .number (encode text)

end Token

/-- The value of the last token for a setting. -/
def lastValue? (setting : Setting) (tokens : List Token) : Option String :=
  (tokens.filterMap (Token.value? setting)).getLast?

/-- The arguments of a command line: its tokens, and perhaps a text after the separator. -/
def written (tokens : List Token) (trailing : Option String) : List Bytes :=
  (tokens.flatMap Token.write).map encode ++
    trailing.toList.flatMap fun text => [separator, encode text]

/-! ## Arguments of their own -/

theorem head?_of_head?_encode {text : String} {byte : UInt8} (high : byte.toNat < 0x80)
    (first : (encode text).head? = some byte) :
    text.toList.head? = some (Char.ofNat byte.toNat) := by
  rcases bytes : encode text with _ | ⟨other, rest⟩
  · rw [bytes] at first
    cases first
  · rw [bytes] at first
    rw [← Text.Utf8.lossy_encode text, bytes, Option.some.inj first,
      Text.Utf8.toList_lossy_cons rest high]
    rfl

theorem StandsAlone.isSwitch_encode {text : String} (alone : StandsAlone text) :
    isSwitch (encode text) = false := by
  rcases alone with plain | hyphen | whole | numeric
  · have notDashed : isDashed (encode text) = false := by
      rw [isDashed, Bool.and_eq_false_iff]
      left
      rw [beq_eq_false_iff_ne]
      intro first
      exact plain (head?_of_head?_encode (by decide) first)
    rw [isSwitch, notDashed]
    rfl
  · rw [hyphen]
    decide
  · rw [isSwitch, isNumber, Text.Utf8.lossy_encode, Numeral.isNumberLike_of_readSigned whole,
      Bool.not_true, Bool.and_false]
  · rw [isSwitch, isNumber, Text.Utf8.lossy_encode, numeric, Bool.not_true, Bool.and_false]

theorem StandsAlone.encode_ne_separator {text : String} (alone : StandsAlone text) :
    encode text ≠ separator := by
  intro same
  have noSwitch := alone.isSwitch_encode
  rw [same, isSwitch_of_long rfl] at noSwitch
  cases noSwitch

/-! ## Switches as they are written -/

theorem bare_long {name : Bytes} (later : name.head? ≠ some hyphen) :
    bare (hyphen :: hyphen :: name) = name :=
  bare_short later

theorem splitName_of_value {name : Bytes} (plain : equalSign ∉ name) (value : Bytes) :
    splitName (name ++ equalSign :: value) = (name, some value) := by
  have different : ∀ byte ∈ name, (byte != equalSign) = true := by
    intro byte member
    rw [bne_iff_ne]
    rintro rfl
    exact plain member
  rw [splitName, List.takeWhile_append_of_pos different, List.dropWhile_append_of_pos different,
    List.takeWhile_cons, List.dropWhile_cons, bne_self_eq_false, if_neg Bool.false_ne_true,
    if_neg Bool.false_ne_true, List.append_nil]
  rfl

theorem stripped_encode {value : String} (plain : value.toList.head? ≠ some '=') :
    stripped (encode value) = encode value := by
  apply List.dropWhile_beq_eq_self_of_head?_ne
  intro sign
  exact plain (head?_of_head?_encode (by decide) sign)

theorem switchUses?_long {name : Bytes} (later : name.head? ≠ some hyphen) :
    switchUses? (hyphen :: hyphen :: name) = longUses? name := by
  have long : (hyphen :: hyphen :: name).take 2 = separator := rfl
  rw [switchUses?, if_pos long, bare_long later]

/-- What follows the letter of a setting is its value, whatever it is. -/
theorem switchUses?_letter_rest (setting : Setting) {rest : Bytes} (some : rest ≠ []) :
    switchUses? (encode ("-" ++ setting.letter) ++ rest) =
      .some ⟨[], .some (setting, .some (stripped rest))⟩ := by
  cases rest with
  | nil => exact absurd rfl some
  | cons first later => cases setting <;> rfl

theorem isSwitch_letter_rest (setting : Setting) (rest : Bytes) :
    isSwitch (encode ("-" ++ setting.letter) ++ rest) = true := by
  have notNumber : isNumber (encode ("-" ++ setting.letter) ++ rest) = false := by
    have spelled : ∀ letter : UInt8, letter.toNat < 0x80 →
        (Text.Utf8.lossy (hyphen :: letter :: rest)).toList =
          '-' :: Char.ofNat letter.toNat :: (Text.Utf8.lossy rest).toList := by
      intro letter high
      rw [Text.Utf8.toList_lossy_cons _ (by decide), Text.Utf8.toList_lossy_cons _ high]
      rfl
    cases setting with
    | limit =>
        exact isNumberLike_eq_false (spelled 'l'.toUInt8 (by decide)) (by decide) (by decide)
          (by decide) (by decide)
    | prompt =>
        exact isNumberLike_eq_false (spelled 'p'.toUInt8 (by decide)) (by decide) (by decide)
          (by decide) (by decide)
  rw [isSwitch, notNumber]
  cases setting <;> rfl

theorem switchUses?_name_value (setting : Setting) {value : String}
    (plain : value.toList.head? ≠ some '=') :
    switchUses? (encode ("--" ++ setting.name ++ "=" ++ value)) =
      some ⟨[], some (setting, some (encode value))⟩ := by
  have bytes : encode ("--" ++ setting.name ++ "=" ++ value) =
      hyphen :: hyphen :: (encode setting.name ++ equalSign :: encode value) := by
    simp only [Text.Utf8.encode_append, List.append_assoc]
    rfl
  have named : (encode setting.name ++ equalSign :: encode value).head? ≠ some hyphen := by
    cases setting <;> simp [Setting.name] <;> decide
  have unsigned : equalSign ∉ encode setting.name := by
    cases setting <;> decide
  rw [bytes, switchUses?_long named, longUses?, splitName_of_value unsigned,
    Text.Utf8.decode?_encode]
  simp only [Option.map_some, stripped_encode plain]
  cases setting <;> rfl

/-! ## One entry for each token -/

theorem entriesFrom?_of_switch {argument : Bytes} {uses : Uses}
    (switch : isSwitch argument = true) (asked : switchUses? argument = some uses)
    (later : List Bytes) :
    entriesFrom? none (argument :: later) =
      (entriesFrom? uses.pending later).map (uses.complete ++ ·) := by
  have proper : argument ≠ separator := by
    rintro rfl
    cases asked
  rw [entriesFrom?, if_neg proper, if_pos switch, asked]
  rfl

theorem entriesFrom?_of_alone (pending : Pending) {text : String} (alone : StandsAlone text)
    (later : List Bytes) :
    entriesFrom? pending (encode text :: later) =
      (entriesFrom? none later).map (pending.fulfilled (encode text) :: ·) := by
  rw [entriesFrom?, if_neg alone.encode_ne_separator, alone.isSwitch_encode,
    if_neg Bool.false_ne_true]

/-- A setting whose value is the next argument. -/
theorem entriesFrom?_of_setting {argument : Bytes} {setting : Setting} {value : String}
    (switch : isSwitch argument = true)
    (asked : switchUses? argument = some ⟨[], some (setting, none)⟩) (alone : StandsAlone value)
    (later : List Bytes) :
    entriesFrom? none (argument :: encode value :: later) =
      (entriesFrom? none later).map
        (Entry.switches [] (some (setting, some (encode value))) :: ·) := by
  rw [entriesFrom?_of_switch switch asked, entriesFrom?_of_alone _ alone, Option.map_map]
  rfl

/-- In every spelling a setting and its value are one entry. -/
theorem entriesFrom?_write_valued (setting : Setting) {spelling : Spelling} {value : String}
    (suits : spelling.Suits value) (later : List Bytes) :
    entriesFrom? none ((spelling.write setting.name setting.letter value).map encode ++ later) =
      (entriesFrom? none later).map
        (Entry.switches [] (some (setting, some (encode value))) :: ·) := by
  cases spelling with
  | nameThenValue =>
      have asked : switchUses? (encode ("--" ++ setting.name)) =
          some ⟨[], some (setting, none)⟩ := by
        cases setting <;> decide
      exact entriesFrom?_of_setting (by cases setting <;> decide) asked suits later
  | letterThenValue =>
      have asked : switchUses? (encode ("-" ++ setting.letter)) =
          some ⟨[], some (setting, none)⟩ := by
        cases setting <;> decide
      exact entriesFrom?_of_setting (by cases setting <;> decide) asked suits later
  | nameEqualValue =>
      have asked := switchUses?_name_value setting suits
      have long : (encode ("--" ++ setting.name ++ "=" ++ value)).take 2 = separator := by
        simp only [Text.Utf8.encode_append, List.append_assoc]
        rfl
      exact entriesFrom?_of_switch (isSwitch_of_long long) asked later
  | letterValue =>
      have some : encode value ≠ [] := by
        intro nothing
        exact suits.2 (Text.Utf8.encode_injective nothing)
      have asked := switchUses?_letter_rest setting some
      have switch := isSwitch_letter_rest setting (encode value)
      rw [← Text.Utf8.encode_append] at asked switch
      rw [stripped_encode suits.1] at asked
      exact entriesFrom?_of_switch switch asked later
  | letterEqualValue =>
      have bytes : encode ("-" ++ setting.letter ++ "=" ++ value) =
          encode ("-" ++ setting.letter) ++ equalSign :: encode value := by
        simp only [Text.Utf8.encode_append, List.append_assoc]
        rfl
      have asked := switchUses?_letter_rest setting (List.cons_ne_nil equalSign (encode value))
      have switch := isSwitch_letter_rest setting (equalSign :: encode value)
      have same : stripped (equalSign :: encode value) = encode value := stripped_encode suits
      rw [same, ← bytes] at asked
      rw [← bytes] at switch
      exact entriesFrom?_of_switch switch asked later

theorem entriesFrom?_write (token : Token) (later : List Bytes) :
    entriesFrom? none (token.write.map encode ++ later) =
      (entriesFrom? none later).map (token.entry :: ·) := by
  cases token with
  | showPath =>
      have asked : switchUses? (encode "--config-file") = some ⟨[.showPath], none⟩ := by decide
      exact entriesFrom?_of_switch (by decide) asked later
  | digits short =>
      cases short with
      | false =>
          have asked : switchUses? (encode "--digits") = some ⟨[.digits], none⟩ := by decide
          exact entriesFrom?_of_switch (by decide) asked later
      | true =>
          have asked : switchUses? (encode "-d") = some ⟨[.digits], none⟩ := by decide
          exact entriesFrom?_of_switch (by decide) asked later
  | number text alone => exact entriesFrom?_of_alone none alone later
  | valued setting spelling value suits => exact entriesFrom?_write_valued setting suits later

/-- The entries of the tokens, and of a text after the separator. -/
def meant (tokens : List Token) (trailing : Option String) : List Entry :=
  tokens.map Token.entry ++ trailing.toList.map fun text => .number (encode text)

theorem entries?_written (tokens : List Token) (trailing : Option String) :
    entries? (written tokens trailing) = some (meant tokens trailing) := by
  rw [entries?, written, meant]
  induction tokens with
  | nil => cases trailing <;> rfl
  | cons token tokens inductionHypothesis =>
      rw [List.flatMap_cons, List.map_append, List.append_assoc, entriesFrom?_write,
        inductionHypothesis]
      rfl

/-! ## What the tokens add up to -/

/-- What a setting has been given by a value. -/
def Given.ofValue? : Option String → Given
  | none => {}
  | some value => ⟨1, [encode value]⟩

theorem giveSetting_entry (setting : Setting) (before : Option String) (token : Token) :
    token.entry.giveSetting setting (Given.ofValue? before) =
      Given.ofValue? ((token.value? setting).or before) := by
  cases token with
  | showPath => rfl
  | digits short => rfl
  | number text alone => rfl
  | valued used spelling value suits =>
      by_cases same : used = setting
      · rw [Token.entry, Entry.giveSetting, Token.value?, if_pos same, if_pos same]
        cases before <;> rfl
      · rw [Token.entry, Entry.giveSetting, Token.value?, if_neg same, if_neg same]
        rfl

theorem countFlag_entry (flag : Flag) (raised : Bool) (token : Token) :
    token.entry.countFlag flag raised.toNat = (raised || token.flag? == some flag).toNat := by
  cases token with
  | showPath => cases flag <;> cases raised <;> rfl
  | digits short => cases flag <;> cases raised <;> rfl
  | number text alone => cases raised <;> rfl
  | valued used spelling value suits => cases raised <;> rfl

/-- A flag counts once, however often it was raised. -/
theorem tally_meant (flag : Flag) (tokens : List Token) (trailing : Option String) :
    tally flag (meant tokens trailing) = (tokens.any (·.flag? == some flag)).toNat := by
  have general : ∀ raised : Bool,
      (tokens.map Token.entry).foldl (Entry.countFlag flag) raised.toNat =
        (raised || tokens.any (·.flag? == some flag)).toNat := by
    induction tokens with
    | nil =>
        intro raised
        rw [List.any_nil, Bool.or_false]
        rfl
    | cons token tokens inductionHypothesis =>
        intro raised
        rw [List.map_cons, List.foldl_cons, countFlag_entry, inductionHypothesis, List.any_cons,
          Bool.or_assoc]
  rw [meant]
  cases trailing with
  | none =>
      rw [Option.toList_none, List.map_nil, List.append_nil]
      exact general false
  | some text => exact (tally_concat flag _ _).trans (general false)

/-- A setting keeps the value that came last. -/
theorem gathered_meant (setting : Setting) (tokens : List Token) (trailing : Option String) :
    gathered setting (meant tokens trailing) = Given.ofValue? (lastValue? setting tokens) := by
  have general : ∀ before : Option String,
      (tokens.map Token.entry).foldl (Entry.giveSetting setting) (Given.ofValue? before) =
        Given.ofValue? ((lastValue? setting tokens).or before) := by
    induction tokens with
    | nil => exact fun before => rfl
    | cons token tokens inductionHypothesis =>
        intro before
        rw [List.map_cons, List.foldl_cons, giveSetting_entry, inductionHypothesis, lastValue?,
          lastValue?, List.filterMap_cons]
        cases token.value? setting with
        | none => rfl
        | some value =>
            rw [List.getLast?_cons]
            cases (tokens.filterMap (Token.value? setting)).getLast? <;> rfl
  have before := general none
  rw [Option.or_none] at before
  rw [meant]
  cases trailing with
  | none =>
      rw [Option.toList_none, List.map_nil, List.append_nil]
      exact before
  | some text => exact (gathered_concat setting _ _).trans before

theorem numbers_meant (tokens : List Token) (trailing : Option String) :
    numbers (meant tokens trailing) =
      (tokens.filterMap Token.number? ++ trailing.toList).map encode := by
  have same : Entry.number? ∘ Token.entry = fun token => token.number?.map encode := by
    funext token
    cases token <;> rfl
  rw [meant, numbers_append, numbers, List.filterMap_map, same, List.map_append,
    List.map_filterMap]
  cases trailing <;> rfl

/-- What tokens ask for, where the last value of the limit reads as the ceiling given. -/
def requested (tokens : List Token) (trailing : Option String) (ceiling : Option Nat) :
    Request where
  showPath := tokens.any (·.flag? == some .showPath)
  digits := tokens.any (·.flag? == some .digits)
  limit := ceiling
  prompt := (lastValue? .prompt tokens).getD defaultPrompt
  number := (tokens.filterMap Token.number? ++ trailing.toList).head?

theorem means_requested (tokens : List Token) (trailing : Option String) {ceiling : Option Nat}
    (limitRead : (lastValue? .limit tokens).map (fun value => Numeral.readUnsigned value.toList) =
      ceiling.map .ok)
    (oneNumber : (tokens.filterMap Token.number? ++ trailing.toList).length ≤ 1) :
    Means (meant tokens trailing) (requested tokens trailing ceiling) where
  flagsOnce := by
    intro flag
    rw [tally_meant]
    exact Bool.toNat_le _
  settingsOnce := by
    intro setting
    rw [gathered_meant]
    cases lastValue? setting tokens with
    | none => exact Nat.zero_le 1
    | some value => exact Nat.le_refl 1
  limitGiven := by
    rw [gathered_meant]
    cases lastValue? .limit tokens with
    | none => exact fun _ => rfl
    | some value =>
        intro nothing
        cases nothing
  showPath := by
    rw [tally_meant, requested]
    cases tokens.any (·.flag? == some .showPath) <;> rfl
  digits := by
    rw [tally_meant, requested]
    cases tokens.any (·.flag? == some .digits) <;> rfl
  limit := by
    rw [gathered_meant, requested]
    cases last : lastValue? .limit tokens with
    | none =>
        rw [last] at limitRead
        cases ceiling with
        | none => rfl
        | some bound => cases limitRead
    | some value =>
        rw [last] at limitRead
        cases ceiling with
        | none => cases limitRead
        | some bound =>
            have read := Option.some.inj limitRead
            simp only [Given.ofValue?, List.map_cons, List.map_nil, limitValue?,
              Text.Utf8.lossy_encode, read]
            rfl
  prompt := by
    rw [gathered_meant, requested]
    cases lastValue? .prompt tokens with
    | none => exact Text.Utf8.decode?_encode defaultPrompt
    | some value => exact Text.Utf8.decode?_encode value
  number := by
    have decoded : Text.Utf8.decode? ∘ encode = some := funext Text.Utf8.decode?_encode
    rw [numbers_meant, List.map_map, decoded, requested]
    match tokens.filterMap Token.number? ++ trailing.toList, oneNumber with
    | [], _ => rfl
    | [text], _ => rfl

end CommandLine
end ExactFactorial
