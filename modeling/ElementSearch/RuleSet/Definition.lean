import ElementSearch.Rule.Grammar
import ElementSearch.Search.Locate

/-!
# Definitions of rule sets

A rule set is defined by named rules, each given either as the text of a rule or as a list of predicates,
and by the mode in which it is searched for. A definition need not be valid: it is what somebody wrote.
-/

namespace ElementSearch

/-- What a search for a rule returns. -/
inductive Mode where
  /-- The outermost match on each branch. -/
  | first
  /-- Every match, nested ones included. -/
  | all
  /-- Only the nodes from which the walks start. -/
  | roots
  deriving DecidableEq

namespace Mode

/-- The name of a mode. -/
def name : Mode → String
  | .first => "first"
  | .all => "all"
  | .roots => "roots"

/-- The mode with a name. -/
def named? (name : String) : Option Mode :=
  [first, all, roots].find? fun mode => mode.name == name

/-- How a search walks, in the modes that walk. -/
def traversal? : Mode → Option Traversal
  | .first => some .outermost
  | .all => some .every
  | .roots => none

end Mode

/-- A predicate as it is written, whether or not its property is one. -/
structure PredicateDefinition where
  property : String
  value : String
  deriving DecidableEq

/-- A rule as it is written. -/
structure RuleDefinition where
  name : String
  /-- The text of the rule. -/
  text : Option String
  /-- The predicates of a rule that is not given as a text. -/
  predicates : List PredicateDefinition
  mode : Mode
  deriving DecidableEq

/-- What is said about a rule set as a whole. -/
structure RuleSetHeader where
  name : String
  description : Option String
  /-- Whether documents inside frames are searched as well. -/
  includeFrames : Bool
  deriving DecidableEq

/-- A rule set about which nothing is said: it has no name and leaves frames out. -/
def RuleSetHeader.plain : RuleSetHeader := ⟨"", none, false⟩

/-- A rule set as it is written. -/
structure RuleSetDefinition extends RuleSetHeader where
  rules : List RuleDefinition
  deriving DecidableEq

/-- Why a definition gives no rule. -/
inductive DefinitionError where
  | text (cause : RuleError)
  | predicate (cause : PredicateError)
  | noPredicates
  deriving DecidableEq

/-- The text of a definition error. -/
def DefinitionError.message : DefinitionError → String
  | .text cause => cause.message
  | .predicate cause => cause.message
  | .noPredicates => "rule has no predicates"

namespace RuleDefinition

/-- The predicates of a definition, or why the first of them that is none cannot be made. -/
def compilePredicates : List PredicateDefinition → Except PredicateError (List Predicate)
  | [] => .ok []
  | definition :: rest =>
    match Predicate.make definition.property definition.value with
    | .error cause => .error cause
    | .ok predicate => (compilePredicates rest).map (predicate :: ·)

/-- The rule that a definition gives. A text counts before predicates. -/
def compile (definition : RuleDefinition) : Except DefinitionError Rule :=
  match definition.text with
  | some text => (Rule.parse text).mapError .text
  | none =>
    match compilePredicates definition.predicates with
    | .error cause => .error (.predicate cause)
    | .ok [] => .error .noPredicates
    | .ok predicates => .ok ⟨predicates⟩

end RuleDefinition

end ElementSearch
