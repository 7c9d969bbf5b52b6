import ExactFactorial.Storage.Path

namespace ExactFactorial
namespace Storage

/-!
# Files

A file tree tells for each place what is there.  A place is the list of names that lead to it from
the root.  A path is followed name by name: each step, also a dot, two dots or an empty name, needs
a directory to start from, so that a slash after the name of a file leads nowhere.  A name that is
too long is found out in the directory that would hold it, and a path that is too long is not
followed at all.
-/

/-- The way from the root. -/
abbrev Place := List Bytes

/-- What can be at a place. -/
inductive Entry where
  | file (content : Bytes)
  | directory
  deriving Repr, DecidableEq

/-- Why a file cannot be read. -/
inductive Failure where
  | missing
  | isDirectory
  | notDirectory
  | tooLong
  | notText
  /-- Any other failure, in the words of the system. -/
  | other (reason : String)
  deriving Repr, DecidableEq

/-- The wording of a failure. -/
def Failure.message : Failure → String
  | .missing => "No such file or directory (os error 2)"
  | .isDirectory => "Is a directory (os error 21)"
  | .notDirectory => "Not a directory (os error 20)"
  | .tooLong => "File name too long (os error 36)"
  | .notText => "stream did not contain valid UTF-8"
  | .other reason => reason

/-- What is where, and the place from which paths start that do not start at the root. -/
structure FileTree where
  entry : Place → Option Entry
  current : Place

/-- The place that a name leads to.  The root is its own parent. -/
def move (place : Place) (name : Bytes) : Place :=
  if !isMove name then place
  else if name = dots then place.dropLast
  else place ++ [name]

namespace FileTree

/-- The place from which a path starts. -/
def start (tree : FileTree) (path : Bytes) : Place :=
  if isAbsolute path then [] else tree.current

/-- Follow names from a place. -/
def walk (tree : FileTree) (place : Place) : List Bytes → Except Failure Place
  | [] => .ok place
  | name :: rest =>
      match tree.entry place with
      | some .directory =>
          if longestName < name.length then .error .tooLong
          else tree.walk (move place name) rest
      | some (.file _) => .error .notDirectory
      | none => .error .missing

/-- What a path leads to.  The empty path leads nowhere. -/
def find (tree : FileTree) (path : Bytes) : Except Failure Entry :=
  if path.isEmpty then .error .missing
  else if longestPath < path.length then .error .tooLong
  else
    match tree.walk (tree.start path) (names path) with
    | .error failure => .error failure
    | .ok place =>
        match tree.entry place with
        | some entry => .ok entry
        | none => .error .missing

/-- Whether a path leads to a file. -/
def isFile (tree : FileTree) (path : Bytes) : Bool :=
  match tree.find path with
  | .ok (.file _) => true
  | .ok .directory | .error _ => false

/-- The text of a file. -/
def read (tree : FileTree) (path : Bytes) : Except Failure String :=
  match tree.find path with
  | .error failure => .error failure
  | .ok .directory => .error .isDirectory
  | .ok (.file content) =>
      match Text.Utf8.decode? content with
      | some text => .ok text
      | none => .error .notText

/-! ## Building a tree -/

/-- The tree that has only one directory and its parents. -/
def empty (current : Place) : FileTree where
  entry place := if place.isPrefixOf current then some .directory else none
  current := current

/-- The places that names lead through, the first and the last one included. -/
def route (place : Place) : List Bytes → List Place
  | [] => [place]
  | name :: rest => place :: route (move place name) rest

/-- The place that a path means, whatever is there. -/
def placeOf (tree : FileTree) (path : Bytes) : Place :=
  (names path).foldl move (tree.start path)

/-- Make a directory of every place that a list of names leads through, and of their parents. -/
def makeAlong (tree : FileTree) (start : Place) (names : List Bytes) : FileTree :=
  let places := route start names
  { tree with
    entry := fun place =>
      if places.any place.isPrefixOf then some .directory else tree.entry place }

/-- Make a directory, with its parents. -/
def makeDirectory (tree : FileTree) (path : Bytes) : FileTree :=
  tree.makeAlong (tree.start path) (names path)

/-- Write a file, after making the directories on the way to it. -/
def write (tree : FileTree) (path content : Bytes) : FileTree :=
  let made := tree.makeAlong (tree.start path) (names path).dropLast
  { made with
    entry := fun place =>
      if place = tree.placeOf path then some (.file content) else made.entry place }

/-- Remove a file, or a directory with all that is in it. -/
def remove (tree : FileTree) (path : Bytes) : FileTree :=
  let target := tree.placeOf path
  { tree with entry := fun place => if target.isPrefixOf place then none else tree.entry place }

end FileTree
end Storage
end ExactFactorial
