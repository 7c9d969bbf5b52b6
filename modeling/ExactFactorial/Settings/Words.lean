namespace ExactFactorial
namespace Settings

/-!
# The words of a line

A line of the settings file is cut into words the way a shell does it.  Spaces and tabs separate
words, and no other blank does.  Apostrophes keep everything between them as it is.  Between double
quotes a backslash takes the meaning from a dollar sign, a backquote, a double quote or another
backslash, and stands for itself before anything else.  Outside quotes it makes any next character
part of the word, and at the end of the line it stands for itself.  A hash sign where a word could
start ends the line.

The scan is written from the right: what a character adds is put in front of what the rest of the
line gives.
-/

/-- Where the scan stands. -/
inductive Mode where
  /-- Between words. -/
  | gap
  | word
  /-- After a backslash outside quotes. -/
  | escape
  /-- Between apostrophes. -/
  | single
  /-- Between double quotes. -/
  | double
  /-- After a backslash between double quotes. -/
  | doubleEscape
  deriving Repr, DecidableEq

/-- The characters between words. -/
def isSeparator (c : Char) : Bool :=
  c == ' ' || c == '\t'

/-- The characters whose meaning a backslash takes away between double quotes. -/
def isEscapable (c : Char) : Bool :=
  c == '$' || c == '`' || c == '"' || c == '\\'

namespace Mode

/-- What a character adds to its word, and where the scan stands after it.  The first character of a
word counts as one inside a word. -/
def step : Mode → Char → List Char × Mode
  | .gap, c | .word, c =>
      if isSeparator c then ([], .gap)
      else if c = '\'' then ([], .single)
      else if c = '"' then ([], .double)
      else if c = '\\' then ([], .escape)
      else ([c], .word)
  | .escape, c => ([c], .word)
  | .single, c => if c = '\'' then ([], .word) else ([c], .single)
  | .double, c =>
      if c = '"' then ([], .word)
      else if c = '\\' then ([], .doubleEscape)
      else ([c], .double)
  | .doubleEscape, c => (if isEscapable c then [c] else ['\\', c], .double)

/-- What the end of the line adds to the word, unless a quote is still open. -/
def close : Mode → Option (List Char)
  | .gap | .word => some []
  | .escape => some ['\\']
  | .single | .double | .doubleEscape => none

/-- Put what a character adds in front of what the rest of the line gives: the rest of the word in
progress, and the words after it.  Between words the character starts a new one. -/
def attach (mode : Mode) (added : List Char) (found : List Char × List (List Char)) :
    List Char × List (List Char) :=
  match mode with
  | .gap => ([], (added ++ found.1) :: found.2)
  | .word | .escape | .single | .double | .doubleEscape => (added ++ found.1, found.2)

end Mode

/-- The rest of the word in progress, and the words after it.  The result is `none` if a quote is
never closed. -/
def scan : Mode → List Char → Option (List Char × List (List Char))
  | mode, [] => mode.close.map fun added => (added, [])
  | mode, c :: rest =>
      if mode = .gap ∧ isSeparator c then scan .gap rest
      else if mode = .gap ∧ c = '#' then some ([], [])
      else (scan (mode.step c).2 rest).map (mode.attach (mode.step c).1)

/-- The words of a line. -/
def words (line : List Char) : Option (List (List Char)) :=
  (scan .gap line).map Prod.snd

end Settings
end ExactFactorial
