import ElementSearch.Rule.Holds

/-!
# Candidates of a predicate

Where in a subtree a search for a predicate has to start. Ids, classes and tags are looked up, and the
hits inside the subtree are proposed; for any other predicate the whole subtree is. With a scope above
the node, a match at the border of the subtree may be due to a node outside it, so the root is proposed
too where it or what the predicate looks at above it passes the test.
-/

namespace ElementSearch.Predicate

variable {Node : Type} [DecidableEq Node] (host : Host Node) (predicate : Predicate)

/-- The elements with the class that a predicate asks for, if the host knows any way to find them. -/
def classHits? (root : Node) : Option (List Node) :=
  host.elementsByClassName root predicate.value <|>
    (host.documentOf root).bind fun document => host.selectByClass document predicate.value

/-- The elements that a lookup for a predicate finds. None stands for a predicate or a root for which
there is no lookup. -/
def hits? (root : Node) : Option (List Node) :=
  if predicate.isWildcard then
    none
  else
    match predicate.kind with
    | .id =>
      (host.documentOf root).map fun document =>
        (host.elementById document predicate.value).toList
    | .className => predicate.classHits? host root
    | .tag => some (host.elementsByTagName root predicate.value)
    | _ => none

/-- Whether the root of a subtree, or what the predicate looks at above it, passes the test. -/
def passesAtBorder (root : Node) : Bool :=
  predicate.passes host root ||
    match predicate.scope with
    | .node => false
    | .parent => (host.parentElement root).any (predicate.passes host)
    | .ancestor => (host.ancestors root).any (predicate.passes host)

/-- The nodes of a subtree from which a search for the predicate starts. -/
def candidates (root : Node) : List Node :=
  match predicate.hits? host root with
  | none => [root]
  | some hits =>
    (if predicate.passesAtBorder host root then [root] else []) ++
      hits.filter fun hit => hit ≠ root && host.contains root hit

end ElementSearch.Predicate
