import ElementSearch.RuleSet.Definition
import ElementSearch.Text.Blank

/-!
# Validation of rule sets

All that is wrong with the definition of a rule set is collected, rule by rule. A rule needs a name that
no rule before it has, and either a text or predicates that make a rule; it is compiled only if it has
one of the two.
-/

namespace ElementSearch

open Text

/-- Something wrong with the definition of a rule set. A rule without a name is not named. -/
inductive Issue where
  | noRules
  | missingField (rule : Option String) (field : String)
  | duplicateName (name : String)
  | textAndPredicates (rule : Option String)
  | invalidRule (rule : Option String) (cause : DefinitionError)
  deriving DecidableEq

/-- The text of an issue. -/
def Issue.message : Issue → String
  | .noRules => "rule set contains no rules"
  | .missingField (some name) field =>
    "rule '" ++ name ++ "' missing required field '" ++ field ++ "'"
  | .missingField none field => "rule missing required field '" ++ field ++ "'"
  | .duplicateName name => "rule name '" ++ name ++ "' is used more than once"
  | .textAndPredicates rule =>
    (match rule with
      | some name => "rule '" ++ name ++ "' has invalid configuration: "
      | none => "invalid rule configuration: ") ++
      "use either `rule` or `predicates`, not both"
  | .invalidRule (some name) cause =>
    "rule '" ++ name ++ "' does not compile: " ++ cause.message
  | .invalidRule none cause => "rule does not compile: " ++ cause.message

/-- The text of several issues, one a line. -/
def Issue.messages (issues : List Issue) : String :=
  "\n".intercalate (issues.map Issue.message)

namespace RuleDefinition

/-- The name of a rule, if it is not blank. -/
def givenName? (definition : RuleDefinition) : Option String :=
  if isAllBlank definition.name then none else some definition.name

/-- What is wrong with the name of a rule that stands behind other rules. -/
def nameIssues (earlier : List RuleDefinition) (definition : RuleDefinition) : List Issue :=
  match definition.givenName? with
  | none => [.missingField none "name"]
  | some name =>
    if name ∈ earlier.filterMap givenName? then [.duplicateName name] else []

/-- What is wrong with a rule apart from its name. -/
def contentIssues (definition : RuleDefinition) : List Issue :=
  match definition.text, definition.predicates with
  | none, [] => [.missingField definition.givenName? "rule"]
  | some _, _ :: _ => [.textAndPredicates definition.givenName?]
  | _, _ =>
    match definition.compile with
    | .ok _ => []
    | .error cause => [.invalidRule definition.givenName? cause]

end RuleDefinition

namespace RuleSetDefinition

/-- What is wrong with rules that stand behind other rules. -/
def ruleIssues (earlier : List RuleDefinition) : List RuleDefinition → List Issue
  | [] => []
  | definition :: rest =>
    definition.nameIssues earlier ++ definition.contentIssues ++
      ruleIssues (earlier ++ [definition]) rest

/-- All that is wrong with a rule set. -/
def issues (definition : RuleSetDefinition) : List Issue :=
  (if definition.rules = [] then [.noRules] else []) ++ ruleIssues [] definition.rules

/-- Accepts a rule set with which nothing is wrong. -/
def validate (definition : RuleSetDefinition) : Except (List Issue) Unit :=
  if definition.issues = [] then .ok () else .error definition.issues

/-- A definition is accepted exactly when its list of issues is empty. -/
theorem validate_eq_ok_iff (definition : RuleSetDefinition) :
    definition.validate = .ok () ↔ definition.issues = [] := by
  unfold validate
  split <;> simp_all

end RuleSetDefinition

end ElementSearch
