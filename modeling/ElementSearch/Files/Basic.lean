/-!
# Files

Loaders read their texts from files by path. Where the contents come from is left open: a file system, or
contents that are held in memory. A file that cannot be read, or that holds no text, is an error of its
own.
-/

namespace ElementSearch

/-- Why a text cannot be read from a path. -/
inductive FileError where
  | missing
  | notADirectory
  | isADirectory
  /-- The bytes are no text in UTF-8. -/
  | notText
  | other (description : String)
  deriving DecidableEq

/-- The text of a file error. -/
def FileError.message : FileError → String
  | .missing => "No such file or directory (os error 2)"
  | .notADirectory => "Not a directory (os error 20)"
  | .isADirectory => "Is a directory (os error 21)"
  | .notText => "stream did not contain valid UTF-8"
  | .other description => description

/-- Files by path: the bytes that are read from one, or why it cannot be read. -/
abbrev Files := String → Except FileError ByteArray

/-- Files that were read before, by path. What was not read is missing. -/
def Files.ofContents (contents : List (String × Except FileError ByteArray)) : Files :=
  fun path => (contents.lookup path).getD (.error .missing)

/-- Reads the text of a file. -/
def Files.readText (files : Files) (path : String) : Except FileError String :=
  match files path with
  | .error error => .error error
  | .ok bytes =>
    match String.fromUTF8? bytes with
    | some text => .ok text
    | none => .error .notText

/-- The place of an error, as it is inserted into its text. -/
def located (path : Option String) : String :=
  path.elim "" fun path => " (" ++ path ++ ")"

end ElementSearch
