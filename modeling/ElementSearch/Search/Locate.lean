import ElementSearch.Search.Candidates
import ElementSearch.Search.Distinct
import ElementSearch.Search.Outermost

/-!
# Searching for a rule

A search gathers the candidates of all predicates, reduces them to the outermost ones, and walks down
from each of these, testing the whole rule at every element. It returns either all matches or, on each
branch, the outermost one.
-/

namespace ElementSearch

/-- Whether a search goes on below a match. -/
inductive Traversal where
  /-- Only the outermost match of each branch. -/
  | outermost
  /-- Every match, nested ones included. -/
  | every
  deriving DecidableEq

namespace Rule

variable {Node : Type} [DecidableEq Node] (host : Host Node) (rule : Rule)

/-- The node from which a search in a scope starts: for a document its root element, if it has one. -/
def start? (scope : Node) : Option Node :=
  if host.kind scope = .document then host.documentElement scope else some scope

/-- The nodes from which the walks start that belong to a search in a subtree. None contains another. -/
def rootsFrom (start : Node) : List Node :=
  host.outermost (distinct (rule.predicates.flatMap fun predicate =>
    predicate.candidates host start))

/-- The nodes from which the walks of a search start. -/
def roots (scope : Node) : List Node :=
  (start? host scope).elim [] (rule.rootsFrom host)

/-- The matches in a subtree in document order, `depth` levels deep. -/
def collectWithin (traversal : Traversal) : Nat → Node → List Node
  | 0, _ => []
  | depth + 1, node =>
    let found := rule.holds host node
    let below :=
      if found ∧ traversal = .outermost then []
      else (host.elementChildren node).flatMap (collectWithin traversal depth)
    if found then node :: below else below

/-- The matches in a subtree, in document order. -/
def collect (traversal : Traversal) (node : Node) : List Node :=
  rule.collectWithin host traversal (host.size + 1) node

/-- The nodes of a scope that match the rule. -/
def locate (traversal : Traversal) (scope : Node) : List Node :=
  distinct ((rule.roots host scope).flatMap (rule.collect host traversal))

/-- The outermost match on each branch. -/
def locateOutermost (scope : Node) : List Node :=
  rule.locate host .outermost scope

/-- Every match, nested ones included. -/
def locateEvery (scope : Node) : List Node :=
  rule.locate host .every scope

end Rule

end ElementSearch
