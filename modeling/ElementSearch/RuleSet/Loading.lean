import ElementSearch.Files.Basic
import ElementSearch.RuleSet.Compiled
import ElementSearch.RuleSet.Reading
import ElementSearch.Toml.Document

/-!
# Loading rule sets

Rule sets are written in TOML. One that is loaded has been read and validated; what is wrong with it is
reported in one piece.
-/

namespace ElementSearch

/-- TOML lets a list go on behind the fields of a record; an empty table or list is the content of a
variant that has none. -/
def Dialect.toml : Dialect where
  surplus := true
  isUnit
    | .table [] => true
    | .list [] => true
    | _ => false

/-- Rule sets are also read from JSON. It writes null for the content of a variant that has none. -/
def Dialect.json : Dialect where
  surplus := false
  isUnit
    | .null => true
    | _ => false

/-- Why a rule set could not be loaded. The path is given if the text came from a file. -/
inductive RuleSetError where
  | unreadableFile (path : String) (cause : FileError)
  | malformed (path : Option String)
  | invalid (path : Option String) (issues : List Issue)
  deriving DecidableEq

namespace RuleSetError

/-- Why a text that was read correctly as far as files go is no rule set. -/
def malformedCause : String := "the text is not a rule set in TOML"

/-- The text of a rule set error. -/
def message : RuleSetError → String
  | .unreadableFile path cause => "failed to read rule set from " ++ path ++ ": " ++ cause.message
  | .malformed path => "failed to parse rule set TOML" ++ located path ++ ": " ++ malformedCause
  | .invalid path issues => "invalid rule set" ++ located path ++ ": " ++ Issue.messages issues

/-- What lies behind a rule set error. -/
def cause : RuleSetError → String
  | .unreadableFile _ cause => cause.message
  | .malformed _ => malformedCause
  | .invalid _ issues => Issue.messages issues

/-- The file that an error comes from, if it comes from one. -/
def path? : RuleSetError → Option String
  | .unreadableFile path _ => some path
  | .malformed path => path
  | .invalid path _ => path

/-- Names the file of an error that does not name one yet. -/
def inFile (path : String) : RuleSetError → RuleSetError
  | .malformed none => .malformed (some path)
  | .invalid none issues => .invalid (some path) issues
  | error => error

end RuleSetError

namespace RuleSetDefinition

/-- Reads a rule set from TOML, without validating it. -/
def ofToml? (text : String) : Option RuleSetDefinition :=
  (Toml.read? text).bind (ofDatum? .toml)

/-- Loads a rule set. -/
def load (text : String) : Except RuleSetError RuleSetDefinition :=
  match ofToml? text with
  | none => .error (.malformed none)
  | some definition =>
    match definition.validate with
    | .ok () => .ok definition
    | .error issues => .error (.invalid none issues)

/-- Loads a rule set from a file. -/
def loadFile (files : Files) (path : String) : Except RuleSetError RuleSetDefinition :=
  match files.readText path with
  | .error cause => .error (.unreadableFile path cause)
  | .ok text => (load text).mapError (·.inFile path)

end RuleSetDefinition

namespace RuleSet

/-- Compiles a rule set that has been read. -/
def ofDefinition (definition : RuleSetDefinition) : Except RuleSetError RuleSet :=
  definition.compile.mapError (.invalid none)

/-- Loads a rule set and compiles it. -/
def load (text : String) : Except RuleSetError RuleSet :=
  match RuleSetDefinition.load text with
  | .error error => .error error
  | .ok definition => ofDefinition definition

/-- Loads a rule set from a file and compiles it. -/
def loadFile (files : Files) (path : String) : Except RuleSetError RuleSet :=
  match RuleSetDefinition.loadFile files path with
  | .error error => .error error
  | .ok definition => (ofDefinition definition).mapError (·.inFile path)

end RuleSet

end ElementSearch
