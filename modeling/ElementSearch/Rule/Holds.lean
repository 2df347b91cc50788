import ElementSearch.Rule.Grammar
import ElementSearch.Text.Blank
import ElementSearch.Tree.Host
import ElementSearch.Url.Pathname

/-!
# When a predicate holds

A predicate is tested at a node of a host. Ids, classes, tags and sources are tested at the node that the
scope names; sizes and visibility always at the node itself. A rule holds where all its predicates
do, so the rule without predicates holds everywhere.
-/

namespace ElementSearch

open Text

namespace Predicate

variable {Node : Type}

/-- The classes of an element: the words of its `class` attribute, or of the property that reflects it
where the attribute is missing. -/
def classesOf (host : Host Node) (node : Node) : List String :=
  match host.attributeValue node "class" with
  | some classes => words classes
  | none =>
    match host.property node "className" with
    | some (.text classes) => words classes
    | _ => []

/-- The source of an element: its `src` attribute, or the property that reflects it where the attribute
is missing or empty. -/
def sourceOf (host : Host Node) (node : Node) : String :=
  match (host.attributeValue node "src").filter (· ≠ "") with
  | some source => source
  | none =>
    match host.property node "src" with
    | some (.text source) => source
    | _ => ""

/-- Whether an element has a source that a value asks for. A value that starts with a slash asks for a
path and is compared with the path of the source, any other with the whole property. -/
def hasSource (host : Host Node) (value : String) (node : Node) : Bool :=
  if value.toList.head? = some '/' then
    satisfies (Url.pathname (sourceOf host node)) (Url.pathname value)
  else
    (host.property node "src").any (·.satisfies value)

/-- Whether an element passes the test of a predicate, wherever the predicate looks. -/
def elementPasses (host : Host Node) (predicate : Predicate) (node : Node) : Bool :=
  match predicate.kind with
  | .id => (host.property node "id").any (·.satisfies predicate.value)
  | .className => (classesOf host node).any (satisfies · predicate.value)
  | .tag => (host.tagName node).any (satisfies · predicate.value)
  | .source => hasSource host predicate.value node
  | _ => false

/-- Whether a node is an element that passes the test of a predicate. -/
def passes (host : Host Node) (predicate : Predicate) (node : Node) : Bool :=
  host.isElement node && predicate.elementPasses host node

/-- Whether a node has the measure that the value of a predicate gives in pixels. The bounding box counts;
the client area only where there is no box. -/
def hasMeasure (host : Host Node) (predicate : Predicate) (ofRect : Rect → Float)
    (ofSize : Size → Float) (node : Node) : Bool :=
  match Pixels.leadingInteger (Pixels.withoutUnit predicate.value) with
  | none => false
  | some expected =>
    match host.boundingRect node with
    | some rect => ofRect rect == expected
    | none => (host.clientSize node).any fun size => ofSize size == expected

variable [DecidableEq Node]

/-- Whether the visibility of a node is the one that the value of a predicate names. -/
def hasVisibility (host : Host Node) (predicate : Predicate) (node : Node) : Bool :=
  if sameIgnoringAsciiCase predicate.value "true" then host.isVisible node
  else if sameIgnoringAsciiCase predicate.value "false" then !host.isVisible node
  else false

/-- Whether the node, parent or ancestor that a predicate looks at passes its test. -/
def passesInScope (host : Host Node) (predicate : Predicate) (node : Node) : Bool :=
  match predicate.scope with
  | .node => predicate.passes host node
  | .parent =>
    (host.parentElement node).any fun parent => parent ≠ node && predicate.passes host parent
  | .ancestor => (host.ancestors node).any (predicate.passes host)

/-- Whether a predicate holds at a node. -/
def holds (host : Host Node) (predicate : Predicate) (node : Node) : Bool :=
  match predicate.kind with
  | .unknown => false
  | .width => predicate.hasMeasure host Rect.width Size.width node
  | .height => predicate.hasMeasure host Rect.height Size.height node
  | .visibility => predicate.hasVisibility host node
  | .id | .className | .tag | .source => predicate.passesInScope host node

end Predicate

namespace Rule

variable {Node : Type} [DecidableEq Node]

/-- Whether all predicates of a rule hold at a node. -/
def holds (host : Host Node) (rule : Rule) (node : Node) : Bool :=
  rule.predicates.all fun predicate => predicate.holds host node

end Rule

end ElementSearch
