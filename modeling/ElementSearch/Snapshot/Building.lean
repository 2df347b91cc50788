import ElementSearch.Arena.Edit
import ElementSearch.Arena.Host
import ElementSearch.Files.Basic
import ElementSearch.Snapshot.Reading

/-!
# Building snapshots

A snapshot is built into an arena that may hold other documents: the document first, then its root
element, each element before its children, and the page inside an element after its children. If
a base URL cannot be read the building stops, and what was built until then stays in the arena.
-/

namespace ElementSearch

/-- Why a snapshot could not be loaded. -/
inductive SnapshotError where
  | unreadableFile (path : String) (cause : FileError)
  | malformed (path : Option String)
  | baseUrl (url : String) (cause : UrlError)
  | tree (cause : TreeError)
  deriving DecidableEq

/-- Why a text that was read correctly as far as files go is no snapshot. -/
def SnapshotError.malformedCause : String := "the text is not a snapshot in JSON"

/-- The text of a snapshot error. -/
def SnapshotError.message : SnapshotError → String
  | .unreadableFile path cause => "I/O error reading " ++ path ++ ": " ++ cause.message
  | .malformed path => "invalid snapshot JSON" ++ located path ++ ": " ++ malformedCause
  | .baseUrl url cause => "invalid base URL '" ++ url ++ "': " ++ cause.message
  | .tree cause => cause.message

/-- What lies behind a snapshot error, if anything does. -/
def SnapshotError.cause? : SnapshotError → Option String
  | .unreadableFile _ cause => some cause.message
  | .malformed _ => some malformedCause
  | .baseUrl _ cause => some cause.message
  | .tree _ => none

/-- An error that concerns the text of a file names the file. -/
def SnapshotError.inFile (path : String) : SnapshotError → SnapshotError
  | .malformed none => .malformed (some path)
  | error => error

namespace Snapshot

/-- A step of building: the arena that it leaves behind, and what it made or why it stopped. -/
abbrev Building (α : Type) := ExceptT SnapshotError (StateM Arena) α

/-- Makes a node. -/
def making (make : Arena → Arena × Handle) : Building Handle := do
  let (arena, node) := make (← get)
  set arena
  pure node

/-- Performs an operation that may fail. -/
def performing (operation : Arena → Arena × Except TreeError Unit) : Building Unit := do
  let (arena, result) := operation (← get)
  set arena
  match result with
  | .ok () => pure ()
  | .error cause => throw (.tree cause)

/-- Reads the base URL of a page, if it has one. -/
def readBaseUrl : Option String → Building (Option Url)
  | none => pure none
  | some text =>
    match Url.parse text with
    | .ok url => pure (some url)
    | .error cause => throw (.baseUrl text cause)

/-- Sets the attributes of an element one after the other. -/
def setAttributes (node : Handle) : List (String × String) → Building Unit
  | [] => pure ()
  | (name, value) :: rest => do
    performing (·.setAttribute node name value)
    setAttributes node rest

/-- Makes an element with what is recorded about itself. -/
def buildFields (fields : ElementFields) : Building Handle := do
  let node ← making (·.createElement fields.tag)
  setAttributes node fields.attributes
  if let some style := fields.style then performing (·.setStyle node style)
  if let some rect := fields.rect then performing (·.setRect node rect)
  if let some size := fields.clientSize then performing (·.setClientSize node size)
  pure node

mutual

/-- Builds a page and answers with its document. -/
def build : Snapshot → Building Handle
  | .mk baseUrl root => do
    let url ← readBaseUrl baseUrl
    let document ← making (·.createDocument url)
    let _ ← buildElement document root
    pure document

/-- Builds an element below a parent. -/
def buildElement (parent : Handle) : ElementSnapshot → Building Handle
  | .mk fields children frame => do
    let node ← buildFields fields
    performing (·.appendChild parent node)
    buildChildren node children
    match frame with
    | none => pure ()
    | some page => do
      let document ← build page
      performing (·.attachFrame node document)
    pure node

/-- Builds the children of an element in order. -/
def buildChildren (parent : Handle) : List ChildSnapshot → Building Unit
  | [] => pure ()
  | .text text :: rest => do
    let _ ← making (·.addText parent text)
    buildChildren parent rest
  | .element child :: rest => do
    let _ ← buildElement parent child
    buildChildren parent rest

end

/-- Builds a page into an arena. -/
def buildInto (snapshot : Snapshot) (arena : Arena) : Arena × Except SnapshotError Handle :=
  let (result, built) := (build snapshot).run.run arena
  (built, result)

end Snapshot

end ElementSearch
