namespace ExactFactorial
namespace CommandLine

/-!
# Switches

A flag is on or off, and a setting takes a value.  Both have a long name, and all but one have a
letter as well.  Two more names ask for information and end the reading of the command line.
-/

/-- The switches without a value. -/
inductive Flag where
  /-- Show where the settings file is. -/
  | showPath
  /-- Answer with the number of digits. -/
  | digits
  deriving Repr, DecidableEq

/-- The switches with a value. -/
inductive Setting where
  /-- The ceiling on the argument. -/
  | limit
  /-- The text of the prompt. -/
  | prompt
  deriving Repr, DecidableEq

/-- A flag or a setting. -/
inductive Switch where
  | flag (flag : Flag)
  | setting (setting : Setting)
  deriving Repr, DecidableEq

namespace Switch

/-- Every switch, in the order in which messages list them. -/
def all : List Switch :=
  [.flag .showPath, .flag .digits, .setting .limit, .setting .prompt]

/-- How messages spell a switch. -/
def shown : Switch → String
  | .flag .showPath => "--config-file"
  | .flag .digits => "--digits"
  | .setting .limit => "--limit <N>"
  | .setting .prompt => "--prompt <TEXT>"

end Switch

/-- What a name or a letter on the command line asks for. -/
inductive Action where
  | flag (flag : Flag)
  | setting (setting : Setting)
  | help
  | version
  deriving Repr, DecidableEq

namespace Action

/-- The meaning of a long name. -/
def ofName? : String → Option Action
  | "config-file" => some (.flag .showPath)
  | "digits" => some (.flag .digits)
  | "limit" => some (.setting .limit)
  | "prompt" => some (.setting .prompt)
  | "help" => some .help
  | "version" => some .version
  | _ => none

/-- The meaning of a letter, given as a byte. -/
def ofLetter? (letter : UInt8) : Option Action :=
  if letter = 'd'.toUInt8 then some (.flag .digits)
  else if letter = 'l'.toUInt8 then some (.setting .limit)
  else if letter = 'p'.toUInt8 then some (.setting .prompt)
  else if letter = 'h'.toUInt8 then some .help
  else if letter = 'V'.toUInt8 then some .version
  else none

end Action
end CommandLine
end ExactFactorial
