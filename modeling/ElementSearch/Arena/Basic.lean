import ElementSearch.Arena.Index
import ElementSearch.Text.Blank
import ElementSearch.Tree.Outline
import ElementSearch.Url.Basic

/-!
# Arenas of documents

An arena holds the nodes of any number of documents, numbered in the order in which they were made. A
frame element and the document inside it point at each other; such a document has no parent. Ids and
classes are indexed by their lowercase form, so lookups agree with the comparison of values.
-/

namespace ElementSearch

open Text

/-- What an arena knows about an element. -/
structure Element where
  tag : String
  /-- The attributes in the order in which they were first set, names in lowercase. -/
  attributes : List (String × String)
  style : Style
  rect : Option Rect
  clientSize : Option Size
  /-- The document inside the element, if it is a frame. -/
  frame : Option Handle

namespace Element

/-- An element with a tag and nothing else. -/
def plain (tag : String) : Element where
  tag
  attributes := []
  style := .unset
  rect := none
  clientSize := none
  frame := none

/-- The value of an attribute, by name up to the case of ASCII letters. -/
def attributeValue (element : Element) (name : String) : Option String :=
  (element.attributes.find? fun entry => sameIgnoringAsciiCase entry.1 name).map (·.2)

/-- Sets the value under a name, in the place of an earlier value if there is one. -/
def setEntry (name value : String) : List (String × String) → List (String × String)
  | [] => [(name, value)]
  | (key, earlier) :: rest =>
    if key = name then (key, value) :: rest else (key, earlier) :: setEntry name value rest

/-- The element with an attribute set. -/
def withAttribute (element : Element) (name value : String) : Element :=
  { element with attributes := setEntry name value element.attributes }

end Element

/-- What a node is, with what only this kind of node has. -/
inductive Content where
  | document (baseUrl : Option Url) (frameOwner : Option Handle)
  | element (element : Element)
  | text (text : String)

/-- The kind of a node with some content. -/
def Content.kind : Content → NodeKind
  | .document _ _ => .document
  | .element _ => .element
  | .text _ => .text

/-- What is known about an element, if it is one. -/
def Content.element? : Content → Option Element
  | .element known => some known
  | _ => none

/-- The URL against which the references of a document are resolved, if it is one and has one. -/
def Content.baseUrl? : Content → Option Url
  | .document url _ => url
  | _ => none

/-- The frame element around a document, if it is one and stands in a frame. -/
def Content.frameOwner? : Content → Option Handle
  | .document _ owner => owner
  | _ => none

/-- A node of an arena. -/
structure Record where
  parent : Option Handle
  children : List Handle
  content : Content

/-- A record without links. -/
def Record.detached (content : Content) : Record := ⟨none, [], content⟩

/-- The nodes of any number of documents, and the indexes of their ids and classes. -/
structure Arena where
  records : Array Record
  ids : Index
  classes : Index

namespace Arena

/-- The arena without nodes. -/
def empty : Arena := ⟨#[], .empty, .empty⟩

variable (arena : Arena)

/-- The number of nodes. -/
def size : Nat :=
  arena.records.size

/-- The record of a node. -/
def record? (node : Handle) : Option Record :=
  arena.records[node]?

/-- What a node is, if the handle names one. -/
def content? (node : Handle) : Option Content :=
  (arena.record? node).map Record.content

/-- The kind of a node. -/
def kind (node : Handle) : NodeKind :=
  (arena.content? node).elim .other Content.kind

/-- The parent of a node. -/
def parent (node : Handle) : Option Handle :=
  (arena.record? node).bind (·.parent)

/-- The children of a node, in document order. -/
def children (node : Handle) : List Handle :=
  (arena.record? node).elim [] (·.children)

/-- What is known about a node, if it is an element. -/
def element? (node : Handle) : Option Element :=
  (arena.content? node).bind Content.element?

/-- The value of an attribute of an element. -/
def attributeValue (node : Handle) (name : String) : Option String :=
  (arena.element? node).bind (·.attributeValue name)

/-- The frame element around a document. -/
def frameOwner (document : Handle) : Option Handle :=
  (arena.content? document).bind Content.frameOwner?

/-- The URL against which the references of a document are resolved. -/
def baseUrl (document : Handle) : Option Url :=
  (arena.content? document).bind Content.baseUrl?

/-- The outline of the arena. -/
def outline : Outline Handle where
  kind := arena.kind
  parent := arena.parent
  children := arena.children
  tagName node := (arena.element? node).map (·.tag)
  attributeValue := arena.attributeValue
  size := arena.size

theorem size_empty : empty.size = 0 := rfl

end Arena

end ElementSearch
