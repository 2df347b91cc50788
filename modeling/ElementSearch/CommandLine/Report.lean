import ElementSearch.RuleSet.Loading
import ElementSearch.Snapshot.Loading

/-!
# Error reports

A report says what failed and, below it, what caused this. A single cause is indented; several are
numbered. The further lines of a cause are indented like its first one.
-/

namespace ElementSearch.CommandLine

/-- Something that failed, and its causes from the nearest to the deepest. -/
structure Failure where
  summary : String
  causes : List String
  deriving DecidableEq

/-- The lines of a cause behind a label, the further ones indented by blanks. -/
def indented (label blanks cause : String) : String :=
  label ++ String.ofList (List.intercalate ('\n' :: blanks.toList) (cause.toList.splitOn '\n'))

/-- Causes with their numbers, one below the other. -/
def numbered : (first : Nat) → List String → String
  | _, [] => ""
  | first, cause :: rest =>
    let number := Nat.repr first
    let label := String.ofList (List.replicate (5 - number.length) ' ') ++ number ++ ": "
    indented label "       " cause ++ "\n" ++ numbered (first + 1) rest

/-- The report on a failure. -/
def Failure.report (failure : Failure) : String :=
  "Error: " ++ failure.summary ++ "\n" ++
    match failure.causes with
    | [] => ""
    | [cause] => "\nCaused by:\n" ++ indented "    " "    " cause ++ "\n"
    | causes => "\nCaused by:\n" ++ numbered 0 causes

/-- The text of a rule is none. -/
def Failure.ofRule (error : RuleError) : Failure := ⟨error.message, []⟩

/-- A rule set could not be loaded. -/
def Failure.ofRuleSet (error : RuleSetError) : Failure := ⟨error.message, [error.cause]⟩

/-- A snapshot could not be loaded from a path. -/
def Failure.ofSnapshot (path : String) (error : SnapshotError) : Failure :=
  ⟨"Failed to load snapshot " ++ path, error.message :: error.cause?.toList⟩

end ElementSearch.CommandLine
