import ElementSearch.Tree.Outline

/-!
# Hosts of document trees

A host adds to an outline what a rendered page knows about its nodes: properties, style, boxes,
the documents inside frames, and lookups by id, tag and class. Every addition has a default, so a
host that offers nothing but an outline works as well; a host with an index of its own replaces the
lookups. Walks along links are part of the outline and not replaced; the header of `Outline` says
which hosts with walks of their own that covers.
-/

namespace ElementSearch

/-- A document tree that can be searched. -/
structure Host (Node : Type) extends Outline Node where
  /-- The value of a reflected property, by default the text of the attribute. -/
  property : Node → String → Option PropertyValue :=
    fun node name => (attributeValue node name).map .text
  style : Node → Option Style := fun _ => none
  boundingRect : Node → Option Rect := fun _ => none
  clientSize : Node → Option Size := fun _ => none
  /-- The document inside a frame element. -/
  contentDocument : Node → Option Node := fun _ => none
  /-- The element of a document with an id. -/
  elementById : Node → String → Option Node := toOutline.firstWithId
  /-- The elements below a node with a tag name. -/
  elementsByTagName : Node → String → List Node := toOutline.descendantsWithTag
  /-- The elements below a node with a class, if the host can look them up. -/
  elementsByClassName : Node → String → Option (List Node) := fun _ _ => none
  /-- The elements of a document with a class, if the host can select them. -/
  selectByClass : Node → String → Option (List Node) := fun _ _ => none

namespace Host

variable {Node : Type} [DecidableEq Node] (host : Host Node)

/-- Whether the style of a node shows it. A node without a style is shown. -/
def isShown (node : Node) : Bool :=
  (host.style node).all Style.isVisible

/-- Whether a node is shown together with every element above it. -/
def isVisible (node : Node) : Bool :=
  host.isShown node && (host.ancestors node).all host.isShown

/-- The documents inside the frames of a document, in the order of the frames. -/
def embeddedDocuments (document : Node) : List Node :=
  (host.descendants document).filterMap host.contentDocument

/-- Adds to `found` every document embedded in one of the `pending` ones, in a document so added, and
so on, but for `outermost`, within a number of rounds. -/
def frameDocumentsWithin (outermost : Node) : Nat → List Node → List Node → List Node
  | 0, _, found => found
  | _ + 1, [], found => found
  | rounds + 1, document :: pending, found =>
    let fresh := ((host.embeddedDocuments document).filter fun embedded =>
      embedded ≠ outermost ∧ embedded ∉ found).eraseDups
    frameDocumentsWithin outermost rounds (pending ++ fresh) (found ++ fresh)

/-- Every document embedded in a document through frames, at any depth: outer ones first, each once,
and never the document itself. -/
def frameDocuments (document : Node) : List Node :=
  host.frameDocumentsWithin document (host.size + 1) [document] []

end Host

end ElementSearch
