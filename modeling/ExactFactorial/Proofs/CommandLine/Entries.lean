import ExactFactorial.CommandLine.Scan

namespace ExactFactorial
namespace CommandLine

/-!
# What a command line says

Reading a command line keeps counts and values, drops them lazily, and remembers the latest switch.
None of that is needed to say what the arguments are.  They are a list of entries: the switches of
one argument, with the value of the last one wherever it was written, and numbers.  The entries
depend on the arguments alone.  What becomes of one flag or of one setting is then a fold over the
entries, and no other flag or setting has a part in it.
-/

/-- Two hyphens alone, after which there are no switches. -/
def separator : Bytes := [hyphen, hyphen]

/-- Whether an argument is a switch wherever it stands before the separator. -/
def isSwitch (argument : Bytes) : Bool :=
  isDashed argument && !isNumber argument

/-- A value without the equal signs in front of it. -/
def stripped (value : Bytes) : Bytes :=
  value.dropWhile (· == equalSign)

/-- What the switches of one argument ask for: flags in order, and then perhaps a setting, with the
value written in the same argument if there is one. -/
structure Uses where
  flags : List Flag
  setting : Option (Setting × Option Bytes)
  deriving Repr, DecidableEq

/-- What a long name asks for. -/
def longUses? (body : Bytes) : Option Uses :=
  match (Text.Utf8.decode? (splitName body).1).bind Action.ofName? with
  | some (.flag flag) => some ⟨[flag], none⟩
  | some (.setting setting) => some ⟨[], some (setting, (splitName body).2.map stripped)⟩
  | some .help | some .version | none => none

/-- What a run of letters asks for. -/
def letterUses? : Bytes → Option Uses
  | [] => some ⟨[], none⟩
  | letter :: rest =>
      match Action.ofLetter? letter with
      | some (.flag flag) =>
          (letterUses? rest).map fun later => { later with flags := flag :: later.flags }
      | some (.setting setting) =>
          some ⟨[], some (setting, if rest.isEmpty then none else some (stripped rest))⟩
      | some .help | some .version | none => none

/-- What a switch asks for, if it asks for anything that can be done. -/
def switchUses? (argument : Bytes) : Option Uses :=
  if argument.take 2 = separator then longUses? (bare argument) else letterUses? (bare argument)

/-- A part of the command line that stands by itself. -/
inductive Entry where
  /-- Flags and then perhaps a setting, from one argument, with the value it got in the end. -/
  | switches (flags : List Flag) (setting : Option (Setting × Option Bytes))
  | number (argument : Bytes)
  deriving Repr, DecidableEq

/-- Flags and a setting from an argument after which a value is awaited. -/
abbrev Pending := Option (List Flag × Setting)

/-- The entry of a setting whose value never came. -/
def Pending.unfulfilled : Pending → List Entry
  | none => []
  | some (flags, setting) => [.switches flags (some (setting, none))]

/-- The entry of an argument that is no switch. -/
def Pending.fulfilled (argument : Bytes) : Pending → Entry
  | none => .number argument
  | some (flags, setting) => .switches flags (some (setting, some argument))

/-- What switches leave to be awaited. -/
def Uses.pending (uses : Uses) : Pending :=
  match uses.setting with
  | some (setting, none) => some (uses.flags, setting)
  | some (_, some _) | none => none

/-- The entry of switches that leave nothing to be awaited. -/
def Uses.complete (uses : Uses) : List Entry :=
  match uses.setting with
  | some (_, none) => []
  | setting => [.switches uses.flags setting]

/-- The entries of the arguments.  The first argument may be a value awaited since before. -/
def entriesFrom? (pending : Pending) : List Bytes → Option (List Entry)
  | [] => some pending.unfulfilled
  | argument :: later =>
      if argument = separator then some (pending.unfulfilled ++ later.map Entry.number)
      else if isSwitch argument then
        (switchUses? argument).bind fun uses =>
          (entriesFrom? uses.pending later).map (pending.unfulfilled ++ uses.complete ++ ·)
      else (entriesFrom? none later).map (pending.fulfilled argument :: ·)

/-- The entries of a command line without the program name. -/
def entries? (arguments : List Bytes) : Option (List Entry) :=
  entriesFrom? none arguments

/-! ## What the entries add up to -/

namespace Entry

/-- Take an entry into the count of a flag.  A flag that ends its argument counts once, whatever
came before; any other use of it is added. -/
def countFlag (flag : Flag) (count : Nat) : Entry → Nat
  | .switches flags none => if flags.getLast? = some flag then 1 else count + flags.count flag
  | .switches flags (some _) => count + flags.count flag
  | .number _ => count

/-- Take an entry into what a setting was given.  The later of two values stays. -/
def giveSetting (setting : Setting) (given : Given) : Entry → Given
  | .switches _ (some (used, value)) =>
      if used = setting then Given.settle ⟨given.uses + 1, given.values ++ value.toList⟩ else given
  | .switches _ none | .number _ => given

/-- The number in an entry. -/
def number? : Entry → Option Bytes
  | .number argument => some argument
  | .switches _ _ => none

end Entry

/-- How often a flag counts. -/
def tally (flag : Flag) (entries : List Entry) : Nat :=
  entries.foldl (Entry.countFlag flag) 0

/-- What a setting was given in the end. -/
def gathered (setting : Setting) (entries : List Entry) : Given :=
  entries.foldl (Entry.giveSetting setting) {}

/-- The numbers, in order. -/
def numbers (entries : List Entry) : List Bytes :=
  entries.filterMap Entry.number?

@[simp] theorem tally_concat (flag : Flag) (entries : List Entry) (entry : Entry) :
    tally flag (entries ++ [entry]) = entry.countFlag flag (tally flag entries) := by
  rw [tally, List.foldl_append]
  rfl

@[simp] theorem gathered_concat (setting : Setting) (entries : List Entry) (entry : Entry) :
    gathered setting (entries ++ [entry]) =
      entry.giveSetting setting (gathered setting entries) := by
  rw [gathered, List.foldl_append]
  rfl

@[simp] theorem numbers_append (entries more : List Entry) :
    numbers (entries ++ more) = numbers entries ++ numbers more := by
  rw [numbers, List.filterMap_append]
  rfl

/-- Settling leaves one value where there were two. -/
theorem Given.length_settle_le {given : Given} (few : given.values.length ≤ 2) :
    given.settle.values.length ≤ 1 := by
  unfold Given.settle
  split
  · rw [List.length_tail]
    omega
  · omega

theorem Given.settle_of_length_le {given : Given} (single : given.values.length ≤ 1) :
    given.settle = given := by
  rw [Given.settle, if_neg (by omega)]

theorem Given.settle_uses_ne_zero {given : Given} (used : given.uses ≠ 0) :
    given.settle.uses ≠ 0 := by
  unfold Given.settle
  split
  · exact Nat.one_ne_zero
  · exact used

/-- Entries leave at most one value with a setting. -/
theorem length_foldl_giveSetting_le (setting : Setting) (entries : List Entry) {given : Given}
    (single : given.values.length ≤ 1) :
    (entries.foldl (Entry.giveSetting setting) given).values.length ≤ 1 := by
  induction entries generalizing given with
  | nil => exact single
  | cons entry entries inductionHypothesis =>
      apply inductionHypothesis
      unfold Entry.giveSetting
      split
      · rename_i used value
        split
        · apply Given.length_settle_le
          rw [List.length_append]
          have few : value.toList.length ≤ 1 := Option.length_toList_le
          omega
        · exact single
      · exact single
      · exact single

theorem length_gathered_le (setting : Setting) (entries : List Entry) :
    (gathered setting entries).values.length ≤ 1 :=
  length_foldl_giveSetting_le setting entries (Nat.zero_le 1)

end CommandLine
end ExactFactorial
