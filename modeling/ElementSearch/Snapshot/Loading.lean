import ElementSearch.Snapshot.Building

/-!
# Loading snapshots

A snapshot that is loaded gets an arena of its own, in which the document of the page is the first node.
-/

namespace ElementSearch.Snapshot

/-- Loads a page: its arena and its document. -/
def load (text : String) : Except SnapshotError (Arena × Handle) :=
  match read? text with
  | none => .error (.malformed none)
  | some snapshot =>
    match snapshot.buildInto .empty with
    | (arena, .ok document) => .ok (arena, document)
    | (_, .error error) => .error error

/-- Loads a page from a file. -/
def loadFile (files : Files) (path : String) : Except SnapshotError (Arena × Handle) :=
  match files.readText path with
  | .error cause => .error (.unreadableFile path cause)
  | .ok text => (load text).mapError (·.inFile path)

end ElementSearch.Snapshot
