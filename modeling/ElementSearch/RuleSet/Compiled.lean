import ElementSearch.RuleSet.Validation

/-!
# Compiled rule sets

A rule set all of whose rules are compiled can be run against a host. Each rule is searched for in the
given scope and, if that is a document and the rule set asks for it, in every document embedded in it.
-/

namespace ElementSearch

/-- A rule with its name and the mode in which it is searched for. -/
structure CompiledRule where
  name : String
  rule : Rule
  mode : Mode
  deriving DecidableEq

/-- A rule set that can be run. -/
structure RuleSet extends RuleSetHeader where
  rules : List CompiledRule
  deriving DecidableEq

/-- The nodes that a rule was found at. -/
structure Outcome (Node : Type) where
  name : String
  mode : Mode
  nodes : List Node
  deriving DecidableEq

namespace RuleDefinition

/-- The compiled rule of a definition. Its name is taken as it is, blank or not. -/
def compiled? (definition : RuleDefinition) : Option CompiledRule :=
  definition.compile.toOption.map fun rule => ⟨definition.name, rule, definition.mode⟩

/-- Why a definition gives no rule, if it gives none. -/
def compilationIssue? (definition : RuleDefinition) : Option Issue :=
  match definition.compile with
  | .ok _ => none
  | .error cause => some (.invalidRule (some definition.name) cause)

end RuleDefinition

/-- Compiles all rules of a definition, or says which of them give no rule. -/
def RuleSetDefinition.compile (definition : RuleSetDefinition) : Except (List Issue) RuleSet :=
  match definition.rules.filterMap RuleDefinition.compilationIssue? with
  | [] => .ok ⟨definition.toRuleSetHeader, definition.rules.filterMap RuleDefinition.compiled?⟩
  | issues => .error issues

section Searching

variable {Node : Type} [DecidableEq Node] (host : Host Node)

/-- What a search for a rule returns in a mode. -/
def Rule.search (rule : Rule) (mode : Mode) (scope : Node) : List Node :=
  match mode.traversal? with
  | some traversal => rule.locate host traversal scope
  | none => rule.roots host scope

/-- What searches for a rule return in several scopes, without repetitions. -/
def Rule.searchAll (rule : Rule) (mode : Mode) (scopes : List Node) : List Node :=
  distinct (scopes.flatMap (rule.search host mode))

/-- A scope and, if wanted, the documents embedded in it. -/
def scopesFrom (withFrames : Bool) (scope : Node) : List Node :=
  scope :: (if withFrames then host.frameDocuments scope else [])

/-- Searches for every rule of a rule set, in order. -/
def RuleSet.run (ruleSet : RuleSet) (scope : Node) : List (Outcome Node) :=
  let withFrames := ruleSet.includeFrames && host.kind scope = .document
  let scopes := scopesFrom host withFrames scope
  ruleSet.rules.map fun compiled =>
    ⟨compiled.name, compiled.mode, compiled.rule.searchAll host compiled.mode scopes⟩

end Searching

end ElementSearch
