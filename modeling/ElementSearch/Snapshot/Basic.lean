import ElementSearch.Tree.Node

/-!
# Snapshots of pages

A snapshot records what a search needs of a rendered page: elements with their attributes, style and
boxes, the texts between them, and the pages inside frames.
-/

namespace ElementSearch

/-- What a snapshot records about an element itself. -/
structure ElementFields where
  tag : String
  /-- The attributes in ascending order of their names, which differ. -/
  attributes : List (String × String)
  style : Option Style
  rect : Option Rect
  clientSize : Option Size

mutual

/-- An element with what is below it and the page inside it. -/
inductive ElementSnapshot where
  | mk (fields : ElementFields) (children : List ChildSnapshot) (frame : Option Snapshot)

/-- A child of an element. -/
inductive ChildSnapshot where
  | text (text : String)
  | element (snapshot : ElementSnapshot)

/-- A page: its root element and the URL against which its references are resolved. -/
inductive Snapshot where
  | mk (baseUrl : Option String) (root : ElementSnapshot)

end

/-- The URL against which the references of a page are resolved. -/
def Snapshot.baseUrl : Snapshot → Option String
  | .mk baseUrl _ => baseUrl

/-- The root element of a page. -/
def Snapshot.root : Snapshot → ElementSnapshot
  | .mk _ root => root

end ElementSearch
