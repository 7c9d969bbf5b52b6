import ExactFactorial.Log
import ExactFactorial.Text.Blank
import ExactFactorial.Text.Utf8

namespace ExactFactorial
namespace Log

/-!
# Which records are shown

A filter is a list of directives.  Each sets how far down the levels are shown, for every target or
for the targets that begin with its name.  Of the directives that fit a record the one with the
longest name decides, and a record that none fits is not shown.  Without any directive only errors
are shown.  A filter can also ask that messages contain a certain text.
-/

/-- A rule for the targets that begin with a name, or for all of them. -/
structure Directive where
  name : Option String
  /-- The last rank that is shown; zero shows nothing. -/
  rank : Nat
  deriving Repr, DecidableEq

/-- The rank that shows every level. -/
def everyRank : Nat := Level.trace.rank

/-- The rank that a word stands for, in capitals or not. -/
def rank? (word : String) : Option Nat :=
  match String.ofList (word.toList.map Char.toLower) with
  | "off" => some 0
  | "error" => some Level.error.rank
  | "warn" => some Level.warn.rank
  | "info" => some Level.info.rank
  | "debug" => some Level.debug.rank
  | "trace" => some Level.trace.rank
  | _ => none

namespace Directive

/-- Whether a directive speaks about a target. -/
def fits (directive : Directive) (target : String) : Bool :=
  match directive.name with
  | none => true
  | some name => name.toList.isPrefixOf target.toList

/-- How specific a directive is. -/
def weight (directive : Directive) : Nat :=
  (directive.name.map String.length).getD 0

/-- Read a directive: a level, a name, or a name with its level.  What cannot be read is returned as
it is to be quoted. -/
def read (text : String) : Except String Directive :=
  match (text.toList.splitOn '=').map String.ofList with
  | [word] =>
      match rank? word with
      | some rank => .ok ⟨none, rank⟩
      | none => .ok ⟨some word, everyRank⟩
  | [name, level] =>
      let level := Text.trim level
      if level.isEmpty then .ok ⟨some name, everyRank⟩
      else
        match rank? level with
        | some rank => .ok ⟨some name, rank⟩
        | none => .error level
  | _ => .error text

/-- Add a directive, in the place of an earlier one with the same name. -/
def insert (directive : Directive) (directives : List Directive) : List Directive :=
  if directives.any (·.name == directive.name) then
    directives.map fun other => if other.name = directive.name then directive else other
  else directives ++ [directive]

end Directive

/-- Directives, and a text that every message shown has to contain. -/
structure Filter where
  directives : List Directive := []
  needle : Option String := none
  deriving Repr, DecidableEq

/-- Whether a text occurs in another. -/
def occursIn (needle : List Char) : List Char → Bool
  | [] => needle.isEmpty
  | c :: rest => needle.isPrefixOf (c :: rest) || occursIn needle rest

namespace Filter

/-- The most specific directive for a target, and of two equally specific ones the later. -/
def decisive? (filter : Filter) (target : String) : Option Directive :=
  filter.directives.foldl
    (fun best directive =>
      if directive.fits target && (best.map Directive.weight).getD 0 ≤ directive.weight then
        some directive
      else best)
    none

/-- The last rank shown for a target. -/
def rankFor (filter : Filter) (target : String) : Nat :=
  if filter.directives.isEmpty then Level.error.rank
  else ((filter.decisive? target).map Directive.rank).getD 0

/-- Whether a record is shown. -/
def shows (filter : Filter) (record : Record) : Bool :=
  record.level.rank ≤ filter.rankFor record.origin.target &&
    match filter.needle with
    | none => true
    | some needle => occursIn needle.toList record.message.toList

/-- The lines of the records that are shown. -/
def render (filter : Filter) (records : List Record) : String :=
  String.join ((records.filter filter.shows).map Record.render)

end Filter

/-- A filter as it was read, with a line about each part that could not be. -/
structure Specification where
  filter : Filter := {}
  complaints : List String := []
  deriving Repr, DecidableEq

namespace Specification

/-- The line about a part that cannot be read. -/
def complaint (part : String) : String :=
  "warning: invalid logging spec '" ++ part ++ "', ignoring it"

/-- Take one more part of the list. -/
def extend (specification : Specification) (part : String) : Specification :=
  if part.isEmpty then specification
  else
    match Directive.read part with
    | .ok directive =>
        { specification with
          filter := { specification.filter with
            directives := directive.insert specification.filter.directives } }
    | .error quoted =>
        { specification with complaints := specification.complaints ++ [complaint quoted] }

/-- Read a list of directives with commas between them, and after a slash the text that messages
have to contain. -/
def read (text : String) : Specification :=
  let list (chars : List Char) (needle : Option String) : Specification :=
    ((chars.splitOn ',').map fun part => String.ofList (Text.trimmed part)).foldl extend
      { filter := { needle } }
  match text.toList.splitOn '/' with
  | [directives] => list directives none
  | [directives, needle] => list directives (some (String.ofList needle))
  | _ => { complaints := [complaint text ++ " (too many '/'s)"] }

/-- Read a variable of the environment.  One that is not set, or that is no text, says nothing. -/
def ofVariable (value : Option Bytes) : Specification :=
  read ((value.bind Text.Utf8.decode?).getD "")

end Specification
end Log
end ExactFactorial
