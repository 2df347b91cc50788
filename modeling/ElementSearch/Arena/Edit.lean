import ElementSearch.Arena.Basic

/-!
# Building arenas

The operations that make nodes and change them. Making a node always succeeds. An operation that takes
a node answers with the arena that it leaves behind and with the reason for which it failed, if it did.
-/

namespace ElementSearch

open Text

/-- Why an operation on an arena failed. -/
inductive TreeError where
  | hierarchy (parent child : Handle)
  | documentChild (node : Handle)
  | notAnElement (node : Handle)
  | notADocument (node : Handle)
  | unknownNode (node : Handle)
  deriving DecidableEq

/-- The text of a tree error. -/
def TreeError.message : TreeError → String
  | .hierarchy parent child =>
    "node " ++ Nat.repr child ++ " cannot be appended to its own descendant " ++ Nat.repr parent
  | .documentChild node =>
    "documents cannot be appended as children (node " ++ Nat.repr node ++ ")"
  | .notAnElement node => "node " ++ Nat.repr node ++ " is not an element"
  | .notADocument node => "node " ++ Nat.repr node ++ " is not a document"
  | .unknownNode node => "node " ++ Nat.repr node ++ " does not exist in this tree"

namespace Arena

/-- Adds a node without links. Its handle is the number of nodes before. -/
def push (arena : Arena) (content : Content) : Arena × Handle :=
  ({ arena with records := arena.records.push (.detached content) }, arena.size)

/-- Makes an empty document. -/
def createDocument (arena : Arena) (baseUrl : Option Url) : Arena × Handle :=
  arena.push (.document baseUrl none)

/-- Makes a detached element. -/
def createElement (arena : Arena) (tag : String) : Arena × Handle :=
  arena.push (.element (.plain tag))

/-- Makes a detached text. -/
def createText (arena : Arena) (text : String) : Arena × Handle :=
  arena.push (.text text)

/-- Changes the record of a node. -/
def modifyRecord (arena : Arena) (node : Handle) (change : Record → Record) : Arena :=
  { arena with records := arena.records.modify node change }

/-- Changes what is known about a node, if it is an element. -/
def modifyElement (arena : Arena) (node : Handle) (change : Element → Element) : Arena :=
  arena.modifyRecord node fun record =>
    match record.content with
    | .element element => { record with content := .element (change element) }
    | _ => record

/-- Takes a node away from its parent. -/
def detach (arena : Arena) (child : Handle) : Arena :=
  match arena.parent child with
  | none => arena
  | some former =>
    (arena.modifyRecord former fun record =>
      { record with children := record.children.filter (· ≠ child) }).modifyRecord child
        fun record => { record with parent := none }

/-- Moves a node behind the last child of another one. -/
def attach (arena : Arena) (parent child : Handle) : Arena :=
  ((arena.detach child).modifyRecord child fun record =>
    { record with parent := some parent }).modifyRecord parent fun record =>
      { record with children := record.children ++ [child] }

/-- Why a node cannot become the child of another one, if it cannot. -/
def appendError? (arena : Arena) (parent child : Handle) : Option TreeError :=
  if (arena.record? parent).isNone then some (.unknownNode parent)
  else if (arena.record? child).isNone then some (.unknownNode child)
  else if arena.kind child = .document then some (.documentChild child)
  else if arena.outline.contains child parent then some (.hierarchy parent child)
  else none

/-- Moves a node behind the last child of another one, unless it is a document or contains the other
node. -/
def appendChild (arena : Arena) (parent child : Handle) : Arena × Except TreeError Unit :=
  match arena.appendError? parent child with
  | some error => (arena, .error error)
  | none => (arena.attach parent child, .ok ())

/-- The index of ids after the id of a node has changed. An empty id is not filed. -/
def refileId (ids : Index) (node : Handle) (former : Option String) (value : String) : Index :=
  let cleared := former.elim ids fun id => ids.unfile (lowercased id) node
  if value = "" then cleared else cleared.file (lowercased value) node

/-- The index of classes after the class attribute of a node has changed. -/
def refileClasses (classes : Index) (node : Handle) (former : Option String) (value : String) :
    Index :=
  let names := fun text : String => (words text).map lowercased
  let cleared := former.elim classes fun text =>
    (names text).foldl (fun index name => index.unfile name node) classes
  (names value).foldl (fun index name => index.file name node) cleared

/-- Sets an attribute of an element and keeps the indexes in step. -/
def writeAttribute (arena : Arena) (node : Handle) (name value : String) : Arena :=
  let name := asciiLowercase name
  let former := arena.attributeValue node name
  let ids := if name = "id" then refileId arena.ids node former value else arena.ids
  let classes :=
    if name = "class" then refileClasses arena.classes node former value else arena.classes
  { arena.modifyElement node (·.withAttribute name value) with ids, classes }

/-- Performs a change that only an element admits. -/
def onElement (arena : Arena) (node : Handle) (changed : Arena) : Arena × Except TreeError Unit :=
  if (arena.element? node).isSome then (changed, .ok ()) else (arena, .error (.notAnElement node))

/-- Sets an attribute. -/
def setAttribute (arena : Arena) (node : Handle) (name value : String) :
    Arena × Except TreeError Unit :=
  arena.onElement node (arena.writeAttribute node name value)

/-- Sets the computed style. -/
def setStyle (arena : Arena) (node : Handle) (style : Style) : Arena × Except TreeError Unit :=
  arena.onElement node (arena.modifyElement node ({ · with style }))

/-- Sets the bounding box. -/
def setRect (arena : Arena) (node : Handle) (rect : Rect) : Arena × Except TreeError Unit :=
  arena.onElement node (arena.modifyElement node ({ · with rect := some rect }))

/-- Sets the size of the client area. -/
def setClientSize (arena : Arena) (node : Handle) (size : Size) : Arena × Except TreeError Unit :=
  arena.onElement node (arena.modifyElement node ({ · with clientSize := some size }))

/-- Makes an element the owner of a document. -/
def setFrameOwner (arena : Arena) (document owner : Handle) : Arena :=
  arena.modifyRecord document fun record =>
    match record.content with
    | .document baseUrl _ => { record with content := .document baseUrl (some owner) }
    | _ => record

/-- Embeds a document in a frame element. The document learns of its owner before the owner is looked
at, so it keeps it even if that is no element. -/
def attachFrame (arena : Arena) (frame document : Handle) : Arena × Except TreeError Unit :=
  if arena.kind document = .document then
    let owned := arena.setFrameOwner document frame
    owned.onElement frame (owned.modifyElement frame ({ · with frame := some document }))
  else
    (arena, .error (.notADocument document))

/-- Makes an element with attributes below a parent. If it cannot be appended it stays detached. -/
def addElement (arena : Arena) (parent : Handle) (tag : String)
    (attributes : List (String × String)) : Arena × Handle :=
  let (created, element) := arena.createElement tag
  let described := attributes.foldl (fun arena (name, value) =>
    arena.writeAttribute element name value) created
  ((described.appendChild parent element).1, element)

/-- Makes a text below a parent. If it cannot be appended it stays detached. -/
def addText (arena : Arena) (parent : Handle) (text : String) : Arena × Handle :=
  let (created, node) := arena.createText text
  ((created.appendChild parent node).1, node)

end Arena

end ElementSearch
