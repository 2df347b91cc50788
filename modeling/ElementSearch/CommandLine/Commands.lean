import ElementSearch.Arena.Label
import ElementSearch.CommandLine.Invocation
import ElementSearch.CommandLine.Report
import ElementSearch.CommandLine.Styled

/-!
# Commands

What each command writes, and the code with which it ends. A command that fails writes a report and ends
with code 1; a command line that is not understood ends with code 2.
-/

namespace ElementSearch.CommandLine

/-- What the program writes, and the code with which it ends. -/
structure Answer where
  code : Nat
  output : String
  errors : String
  deriving DecidableEq

/-- Lines of text, each ended by a line break. -/
def lines (texts : List String) : String :=
  String.join (texts.map (· ++ "\n"))

/-- The answer to a command that failed. -/
def Failure.answer (failure : Failure) : Answer := ⟨1, "", failure.report⟩

/-- Paths, one a line. -/
def pathLines (arena : Arena) (nodes : List Handle) : List String :=
  nodes.map arena.path

section Locate

variable (colored : Bool)

/-- The answer to `locate` once the snapshot is loaded. -/
def locateIn (rule : Rule) (mode : Mode) (withFrames : Bool) (arena : Arena) (document : Handle) :
    Answer :=
  match rule.searchAll arena.host mode (scopesFrom arena.host withFrames document) with
  | [] =>
    ⟨0, "", lines [TextStyle.yellow.apply colored ("No matches for " ++ rule.encode)]⟩
  | found =>
    let noun := if mode = .roots then "root(s)" else "match(es)"
    let count := TextStyle.green.apply colored "✓" ++ " " ++ Nat.repr found.length ++ " " ++ noun
    ⟨0, lines (pathLines arena found), lines [count]⟩

/-- Locates the matches of a rule in a snapshot. The rule is read first. -/
def locate (files : Files) (rule snapshot : String) (mode : Mode) (withFrames : Bool) : Answer :=
  match Rule.parse rule with
  | .error error => (Failure.ofRule error).answer
  | .ok rule =>
    match Snapshot.loadFile files snapshot with
    | .error error => (Failure.ofSnapshot snapshot error).answer
    | .ok (arena, document) => locateIn colored rule mode withFrames arena document

end Locate

/-- The name of what a predicate tests. -/
def kindName : PredicateKind → String
  | .id => "id"
  | .className => "class"
  | .tag => "tag"
  | .source => "src"
  | .width => "width"
  | .height => "height"
  | .visibility => "visible"
  | .unknown => "unknown"

/-- The name of where a predicate looks. -/
def scopeName : Scope → String
  | .node => "selfnode"
  | .parent => "parent"
  | .ancestor => "anyancestor"

section Check

variable (colored : Bool)

/-- The row of a predicate, or of a segment that is skipped. -/
def segmentRow (number : Nat) (segment : Except SegmentError Predicate) : String :=
  "  " ++ padded 3 (Nat.repr number) ++ " " ++
    match segment with
    | .ok predicate =>
      padded 24 predicate.encode ++ " " ++ padded 8 (kindName predicate.kind) ++ " " ++
        padded 12 (scopeName predicate.scope) ++ " " ++
        (if predicate.isWildcard then "wildcard" else "")
    | .error error => TextStyle.yellow.apply colored ("skipped: " ++ error.message)

/-- The row above the rows of segments. -/
def headerRow : String :=
  let column := fun (width : Nat) (title : String) =>
    TextStyle.dimmed.apply colored (padded width title)
  "  " ++ column 3 "#" ++ " " ++ column 24 "predicate" ++ " " ++ column 8 "kind" ++ " " ++
    column 12 "scope" ++ " " ++ column 0 ""

/-- Shows how a rule is read, segment by segment. -/
def check (text : String) : Answer :=
  let rows := ((Rule.segments text).zipIdx 1).map fun (segment, number) =>
    segmentRow colored number segment
  match Rule.parse? text with
  | none =>
    let complaint := TextStyle.red.apply colored "✗" ++ " " ++
      TextStyle.red.apply colored ("'" ++ text ++ "' contains no usable predicates")
    ⟨1, "", lines (complaint :: rows)⟩
  | some rule =>
    let title := TextStyle.bold.apply colored "Rule:" ++ " " ++ rule.encode
    ⟨0, lines (title :: headerRow colored :: rows), ""⟩

end Check

section Run

variable (colored : Bool)

/-- What is said about a rule set before its rules are run. -/
def titleLines (ruleSet : RuleSet) : List String :=
  (if ruleSet.name = "" then []
    else [TextStyle.bold.apply colored "Rule set:" ++ " " ++ ruleSet.name]) ++
    (ruleSet.description.map (TextStyle.dimmed.apply colored)).toList ++ [""]

/-- What is said about the nodes that a rule was found at. -/
def outcomeLines (arena : Arena) (outcome : Outcome Handle) : List String :=
  let subject := " " ++ outcome.name ++ " (" ++ outcome.mode.name ++ "): "
  match outcome.nodes with
  | [] =>
    [TextStyle.cyan.apply colored "⊘" ++ subject ++ TextStyle.dimmed.apply colored "no matches"]
  | nodes =>
    (TextStyle.green.apply colored "✓" ++ subject ++ Nat.repr nodes.length) ::
      (pathLines arena nodes).map ("    " ++ ·)

/-- What is said about all rules together. -/
def summaryLines (outcomes : List (Outcome Handle)) : List String :=
  let total := (outcomes.flatMap fun outcome => outcome.nodes).length
  ["", TextStyle.bold.apply colored "Summary:",
    "  " ++ Nat.repr outcomes.length ++ " rule(s)",
    "  " ++ TextStyle.green.apply colored (Nat.repr total) ++ " node(s) located"]

/-- Runs a rule set against a snapshot. The rule set is loaded first. -/
def run (files : Files) (rules snapshot : String) : Answer :=
  match RuleSet.loadFile files rules with
  | .error error => (Failure.ofRuleSet error).answer
  | .ok ruleSet =>
    match Snapshot.loadFile files snapshot with
    | .error error => (Failure.ofSnapshot snapshot error).answer
    | .ok (arena, document) =>
      let outcomes := ruleSet.run arena.host document
      ⟨0, lines (titleLines colored ruleSet ++ outcomes.flatMap (outcomeLines colored arena) ++
        summaryLines colored outcomes), ""⟩

end Run

/-- The files that an invocation reads. -/
def Invocation.paths : Invocation → List String
  | .perform (.locate _ snapshot _ _) => [snapshot]
  | .perform (.run rules snapshot) => [rules, snapshot]
  | _ => []

/-- The answer to an invocation. What is shown as help, and beside a command line that is not understood, is a matter
of the reader of arguments and left out. -/
def Invocation.answer (colored : Bool) (files : Files) : Invocation → Answer
  | .perform (.locate rule snapshot mode withFrames) =>
    locate colored files rule snapshot mode withFrames
  | .perform (.check rule) => check colored rule
  | .perform (.run rules snapshot) => run colored files rules snapshot
  | .version => ⟨0, lines ["node-locator 0.1.0"], ""⟩
  | .help => ⟨0, "", ""⟩
  | .misuse => ⟨2, "", ""⟩

end ElementSearch.CommandLine
