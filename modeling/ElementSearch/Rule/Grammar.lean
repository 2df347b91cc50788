import ElementSearch.Rule.Predicate

/-!
# Rules and their text

A rule is a list of predicates that all have to hold. Its text joins them with `;`, and each is
split at its first `=`, so a value may hold `=` but no `;`. Segments that are no predicate are left
out; a text without any predicate is no rule.
-/

namespace ElementSearch

/-- Why a segment of a rule's text is no predicate. -/
inductive SegmentError where
  | missingSeparator (segment : String)
  | invalidPredicate (segment : String) (cause : PredicateError)
  deriving DecidableEq

/-- The text of a segment error. -/
def SegmentError.message : SegmentError → String
  | .missingSeparator segment => "segment '" ++ segment ++ "' has no '=' separator"
  | .invalidPredicate segment cause => "segment '" ++ segment ++ "': " ++ cause.message

/-- Reads a segment, split at its first `=`. -/
def Predicate.parse (segment : String) : Except SegmentError Predicate :=
  match segment.toList.dropWhile (· ≠ '=') with
  | [] => .error (.missingSeparator segment)
  | _ :: value =>
    (Predicate.make (String.ofList (segment.toList.takeWhile (· ≠ '='))) (String.ofList value)).mapError
      (.invalidPredicate segment)

/-- A conjunction of predicates. -/
structure Rule where
  predicates : List Predicate
  deriving DecidableEq

/-- Why a text is no rule: none of its segments is a predicate. -/
inductive RuleError where
  | noPredicates (text : String)
  deriving DecidableEq

/-- The text of a rule error. -/
def RuleError.message : RuleError → String
  | .noPredicates text => "rule '" ++ text ++ "' contains no valid identifiers"

namespace Rule

/-- The text of a rule, its predicates in order. -/
def encode (rule : Rule) : String :=
  String.ofList (List.intercalate [';'] (rule.predicates.map fun predicate =>
    predicate.encode.toList))

/-- Each segment of a rule's text as a predicate, or why it is none. -/
def segments (text : String) : List (Except SegmentError Predicate) :=
  (text.toList.splitOn ';').map fun segment => Predicate.parse (String.ofList segment)

/-- The rule that a text writes, made of those segments that are predicates. -/
def parse? (text : String) : Option Rule :=
  match (segments text).filterMap Except.toOption with
  | [] => none
  | predicates => some ⟨predicates⟩

/-- The rule that a text writes, or why it is none. -/
def parse (text : String) : Except RuleError Rule :=
  match parse? text with
  | some rule => .ok rule
  | none => .error (.noPredicates text)

end Rule

end ElementSearch
