import ExactFactorial.Log
import ExactFactorial.Settings.Content
import ExactFactorial.Settings.Location
import ExactFactorial.Storage.FileTree

namespace ExactFactorial
namespace Settings

/-!
# Taking arguments from the settings file

A missing file is silent.  A file that cannot be read, or that has a defect, gives no argument at
all and leaves one warning.
-/

/-- Arguments from the file, and what was logged about it. -/
structure Loaded where
  arguments : List String := []
  log : List Log.Record := []
  deriving Repr, DecidableEq

/-- A warning about the settings file. -/
def warning (opening : String) (path : Bytes) (reason : String) : Log.Record :=
  ⟨.warn, .settings, opening ++ " config file " ++ Text.Utf8.lossy path ++ ": " ++ reason⟩

/-- The arguments in what was read from a path. -/
def load (path : Bytes) : Except Storage.Failure String → Loaded
  | .error .missing => {}
  | .error failure => { log := [warning "cannot read" path failure.message] }
  | .ok content =>
      match arguments content with
      | .ok found => { arguments := found }
      | .error defect => { log := [warning "ignoring" path defect.message] }

/-- The path of the settings file in a tree, and what it holds. -/
def locate (environment : Environment) (tree : Storage.FileTree) : Bytes × Loaded :=
  let path := environment.settingsFile tree.isFile
  (path, load path (tree.read path))

end Settings
end ExactFactorial
