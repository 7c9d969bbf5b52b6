import ExactFactorial.CommandLine.Misuse
import ExactFactorial.CommandLine.Request
import ExactFactorial.Text.Utf8

namespace ExactFactorial
namespace CommandLine

/-!
# What has been given so far

While the arguments are read, each flag has a count, and each setting a count and its values in
order.  A later use of a switch replaces an earlier one, but only lazily: the earlier value is
dropped when the next argument arrives and the switch is still the latest one.  A switch that is no
longer the latest keeps its count, so a repetition that was not settled in time is found at the end.
-/

/-- A table with the value at one key replaced. -/
def assign {κ ν : Type} [DecidableEq κ] (table : κ → ν) (key : κ) (value : ν) : κ → ν :=
  fun other => if other = key then value else table other

/-- How often a setting was used, and the values it got. -/
structure Given where
  uses : Nat := 0
  values : List Bytes := []
  deriving Repr, DecidableEq

namespace Given

/-- Whether the setting is there at all, be it by a default value. -/
def isPresent (given : Given) : Bool :=
  given.uses != 0 || !given.values.isEmpty

/-- Give up the oldest of several values. -/
def settle (given : Given) : Given :=
  if 1 < given.values.length then ⟨1, given.values.tail⟩ else given

end Given

/-- What the next argument may be. -/
inductive Expectation where
  /-- Anything. -/
  | free
  /-- The value of a setting, unless a switch comes in its place. -/
  | value (setting : Setting)
  /-- Anything, after a setting that has got its value. -/
  | settled
  deriving Repr, DecidableEq

/-- The state of the reading. -/
structure Progress where
  flags : Flag → Nat := fun _ => 0
  settings : Setting → Given := fun _ => {}
  /-- The switch read last, if no number came after it. -/
  latest : Option Switch := none
  expectation : Expectation := .free
  /-- Whether switches are over. -/
  trailing : Bool := false
  number : Option Bytes := none

namespace Progress

/-- Whether a switch is there. -/
def has (progress : Progress) : Switch → Bool
  | .flag flag => progress.flags flag != 0
  | .setting setting => (progress.settings setting).isPresent

/-- The switches that are there. -/
def given (progress : Progress) : List Switch :=
  Switch.all.filter progress.has

/-- Stop for a misuse. -/
def refuse {α : Type} (progress : Progress) (cause : Misuse) : Except Stop α :=
  .error (.misuse cause progress.given)

/-- Let the latest switch replace its earlier uses. -/
def settle (progress : Progress) : Progress :=
  match progress.latest with
  | none => progress
  | some (.flag flag) => { progress with flags := assign progress.flags flag 1 }
  | some (.setting setting) =>
      { progress with
        settings := assign progress.settings setting (progress.settings setting).settle }

/-- Take a flag. -/
def raise (progress : Progress) (flag : Flag) : Progress :=
  { progress with
    flags := assign progress.flags flag (progress.flags flag + 1)
    latest := some (.flag flag)
    expectation := .free }

/-- Take a setting, with the value written in the same argument if there is one.  Equal signs in
front of that value belong to the spelling. -/
def take (progress : Progress) (setting : Setting) (value : Option Bytes) : Progress :=
  let before := progress.settings setting
  let added := value.toList.map fun bytes => bytes.dropWhile (· == equalSign)
  { progress with
    settings := assign progress.settings setting ⟨before.uses + 1, before.values ++ added⟩
    latest := some (.setting setting)
    expectation := if value.isSome then .settled else .value setting }

/-- Take an argument as the value that a setting waits for. -/
def supply (progress : Progress) (setting : Setting) (value : Bytes) : Progress :=
  let before := progress.settings setting
  { progress with
    settings := assign progress.settings setting { before with values := before.values ++ [value] }
    expectation := .settled }

/-- Take an argument as the number.  There is room for one. -/
def place (progress : Progress) (argument : Bytes) : Except Stop Progress :=
  if progress.number.isSome then progress.refuse (.unexpected (Text.Utf8.lossy argument))
  else .ok { progress.settle with latest := none, number := some argument }

end Progress
end CommandLine
end ExactFactorial
