import ElementSearch.Files.Basic

/-!
# Directories in memory

A directory whose files are held in memory, without directories inside it. Paths are taken relative to it;
parts of a path that are empty or a dot say nothing.
-/

namespace ElementSearch

/-- The contents of the files in a directory, by name. -/
structure Directory where
  entries : List (String × ByteArray)

namespace Directory

/-- The parts of a path. -/
def pathParts (path : String) : List String :=
  (path.toList.splitOn '/').map String.ofList

/-- Whether a part of a path leads anywhere. -/
def isName (part : String) : Bool :=
  part != "" && part != "."

/-- Reads a file. A path that goes on behind the name of a file leads nowhere. -/
def read (directory : Directory) (path : String) : Except FileError ByteArray :=
  let parts := pathParts path
  match parts.filter isName with
  | [] => .error .isADirectory
  | name :: further =>
    match directory.entries.lookup name with
    | none => .error .missing
    | some bytes =>
      if further = [] ∧ parts.getLast? = some name then .ok bytes else .error .notADirectory

/-- The files of the directory. -/
def files (directory : Directory) : Files :=
  directory.read

end Directory

end ElementSearch
