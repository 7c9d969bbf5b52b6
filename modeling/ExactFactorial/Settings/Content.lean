import ExactFactorial.Settings.Words
import ExactFactorial.Text.Blank

namespace ExactFactorial
namespace Settings

/-!
# The content of a settings file

The file holds arguments, any number on a line.  Lines are trimmed first, and a line that is empty
or starts with a hash sign holds none, whatever quotes it contains.  One line with an open quote
spoils the whole file.
-/

/-- What is wrong with a file. -/
inductive Defect where
  | openQuote
  deriving Repr, DecidableEq

/-- The wording of a defect. -/
def Defect.message : Defect → String
  | .openQuote => "missing closing quote"

/-- Whether a trimmed line holds arguments. -/
def isMeaningful (line : List Char) : Bool :=
  !line.isEmpty && line.head? != some '#'

/-- The lines that hold arguments, trimmed. -/
def meaningfulLines (content : List Char) : List (List Char) :=
  ((content.splitOn '\n').map Text.trimmed).filter isMeaningful

/-- The arguments in a file, in order. -/
def arguments (content : String) : Except Defect (List String) :=
  match (meaningfulLines content.toList).mapM words with
  | some found => .ok (found.flatten.map String.ofList)
  | none => .error .openQuote

end Settings
end ExactFactorial
