import ExactFactorial.Text.Utf8

namespace ExactFactorial
namespace Storage

/-!
# Paths

A path is a list of bytes, and a slash divides its names.  Paths are put together and taken apart
here without a look at what they lead to.
-/

/-- The byte between the names of a path. -/
def slash : UInt8 := '/'.toUInt8

/-- The name that stays in a directory. -/
def dot : Bytes := ['.'.toUInt8]

/-- The name that leads to the parent directory. -/
def dots : Bytes := ['.'.toUInt8, '.'.toUInt8]

/-- The length of the longest name that a directory can hold. -/
def longestName : Nat := 255

/-- The length of the longest path that can be followed. -/
def longestPath : Nat := 4095

/-- The names of a path.  Two slashes in a row, and one at either end, make an empty name. -/
def names (path : Bytes) : List Bytes :=
  path.splitOn slash

/-- Whether a path starts at the root. -/
def isAbsolute (path : Bytes) : Bool :=
  path.head? == some slash

/-- Whether a name leads away from the directory it is looked up in. -/
def isMove (name : Bytes) : Bool :=
  !name.isEmpty && name != dot

/-- The last name of a path that leads anywhere. -/
def lastName? (path : Bytes) : Option Bytes :=
  ((names path).filter isMove).getLast?

/-- Put a name behind a path, with one slash between them. -/
def join (path name : Bytes) : Bytes :=
  if path.isEmpty || path.getLast? == some slash then path ++ name else path ++ slash :: name

end Storage
end ExactFactorial
