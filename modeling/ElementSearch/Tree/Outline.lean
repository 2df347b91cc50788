import ElementSearch.Tree.Node

/-!
# The outline of a document tree

An outline is what every host of a document tree provides: kinds, links, tag names and attributes.
All walks through the tree are defined on it.

Walks towards the root follow at most `maxAncestorSteps` parent links, so they end even if the links
form a cycle. Walks away from the root are bounded by the size of the outline, which no branch of a
tree without cycles exceeds; in such a tree the bound cuts nothing off.

A host may replace the ways to tell elements (`isElement`), to find the element above a node or the ones
below it (`parentElement`, `elementChildren`), the document of a node and its root element (`documentOf`,
`documentElement`), and to tell whether a node lies below another one (`contains`). Here all of these are
functions of kinds and links, as they are for a host that replaces none of them. An outline has no laws, so what is
shown of all outlines covers a host that replaces the first three: its outline has the kinds, parents and
children that these three report. A host whose `documentOf`, `documentElement` or `contains` says something
else than its links is not covered.
-/

namespace ElementSearch

open Text

/-- The number of nodes after which a walk towards the root is given up. -/
def maxAncestorSteps : Nat := 4096

/-- The kinds, links, tag names and attributes of a document tree. Equality of handles is identity of
nodes. For a host that finds the elements above and below a node in its own way, `parent` and `children`
are what it finds. -/
structure Outline (Node : Type) where
  kind : Node → NodeKind
  /-- The parent of a node. The parent of a root element is its document. -/
  parent : Node → Option Node
  /-- All children of a node in document order, texts included. -/
  children : Node → List Node
  tagName : Node → Option String
  attributeValue : Node → String → Option String
  /-- A bound on the number of nodes: no branch of the tree is longer. -/
  size : Nat

namespace Outline

variable {Node : Type}

section Links

variable (outline : Outline Node)

/-- Whether a node is an element. -/
def isElement (node : Node) : Bool :=
  outline.kind node = .element

/-- The parent of a node, if it is an element. -/
def parentElement (node : Node) : Option Node :=
  (outline.parent node).filter outline.isElement

/-- The children of a node that are elements. -/
def elementChildren (node : Node) : List Node :=
  (outline.children node).filter outline.isElement

/-- The first element child, which for a document is its root element. -/
def documentElement (document : Node) : Option Node :=
  (outline.elementChildren document).head?

/-- A node and the nodes above it, nearest first, cut off after `steps` nodes. -/
def lineageWithin : Nat → Node → List Node
  | 0, _ => []
  | steps + 1, node =>
    node :: (match outline.parent node with
      | some parent => lineageWithin steps parent
      | none => [])

/-- A node and the nodes above it, as far as a walk towards the root goes. -/
def lineage (node : Node) : List Node :=
  outline.lineageWithin maxAncestorSteps node

/-- The document that a node belongs to, which for a document is itself; none for a detached node.
A document embedded in a frame has no parent, so a node inside it belongs to that document and not
to the one around it. -/
def documentOf (node : Node) : Option Node :=
  (outline.lineage node).find? fun above => outline.kind above = .document

/-- The elements below a node in document order, cut off `depth` levels down. -/
def descendantsWithin : Nat → Node → List Node
  | 0, _ => []
  | depth + 1, node =>
    (outline.elementChildren node).flatMap fun child => child :: descendantsWithin depth child

/-- The elements below a node, in document order. -/
def descendants (node : Node) : List Node :=
  outline.descendantsWithin outline.size node

/-- A node and the elements below it, in document order. -/
def subtree (node : Node) : List Node :=
  node :: outline.descendants node

/-- The first element below a document whose `id` attribute is the wanted one up to letter case. -/
def firstWithId (document : Node) (id : String) : Option Node :=
  (outline.descendants document).find? fun node =>
    (outline.attributeValue node "id").any fun value => lowercased value == lowercased id

/-- The elements below a node with a tag name, up to the case of ASCII letters. The tag `*` stands for
every element. -/
def descendantsWithTag (scope : Node) (tag : String) : List Node :=
  (outline.descendants scope).filter fun node =>
    tag == "*" || (outline.tagName node).any fun name => sameIgnoringAsciiCase name tag

/-- The lineage of a node holds the node itself. -/
theorem mem_lineageWithin_self (steps : Nat) (node : Node) :
    node ∈ outline.lineageWithin (steps + 1) node := by
  unfold lineageWithin
  exact List.mem_cons_self

end Links

section Identity

variable [DecidableEq Node] (outline : Outline Node)

/-- Whether a node is `ancestor` itself or lies below it. -/
def contains (ancestor node : Node) : Bool :=
  decide (ancestor ∈ outline.lineage node)

/-- The elements above a node, nearest first, cut off after `steps` of them and where the walk comes
back to `origin`. -/
def ancestorsWithin (origin : Node) : Nat → Node → List Node
  | 0, _ => []
  | steps + 1, node =>
    match outline.parentElement node with
    | some parent => if parent = origin then [] else parent :: ancestorsWithin origin steps parent
    | none => []

/-- The elements above a node, nearest first. -/
def ancestors (node : Node) : List Node :=
  outline.ancestorsWithin node maxAncestorSteps node

theorem contains_self (node : Node) : outline.contains node node = true :=
  decide_eq_true (outline.mem_lineageWithin_self 4095 node)

end Identity

end Outline

end ElementSearch
