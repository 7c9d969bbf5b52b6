import ExactFactorial.Storage.Path

namespace ExactFactorial
namespace Settings

/-!
# Where the settings file is

A path in the environment is taken if it leads to a file.  Otherwise the file is looked for in the
configuration directory, which the environment may name as well if it names it from the root, and
which lies in the home directory if it does not.  Paths are put together and never tidied up.
-/

/-- The variables of the environment that the program looks at. -/
structure Environment where
  /-- The path of the settings file. -/
  settingsPath : Option Bytes := none
  /-- The configuration directory. -/
  configHome : Option Bytes := none
  home : Bytes
  /-- Which log records are shown. -/
  logFilter : Option Bytes := none
  deriving Repr, DecidableEq

namespace Environment

/-- The directory of the configuration files. -/
def configDirectory (environment : Environment) : Bytes :=
  (environment.configHome.filter Storage.isAbsolute).getD
    (Storage.join environment.home (Text.Utf8.encode ".config"))

/-- The settings file in the configuration directory. -/
def usualPath (environment : Environment) : Bytes :=
  Storage.join (Storage.join environment.configDirectory (Text.Utf8.encode "factorial"))
    (Text.Utf8.encode "config")

/-- The settings file named by the environment.  A name that is no text does not count. -/
def namedPath? (environment : Environment) : Option Bytes :=
  environment.settingsPath.filter Text.Utf8.isText

/-- The settings file, given which paths lead to a file. -/
def settingsFile (environment : Environment) (isFile : Bytes → Bool) : Bytes :=
  (environment.namedPath?.filter isFile).getD environment.usualPath

end Environment
end Settings
end ExactFactorial
