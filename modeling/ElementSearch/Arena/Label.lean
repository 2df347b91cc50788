import ElementSearch.Arena.Basic
import ElementSearch.Text.Replace

/-!
# Labels and paths of nodes

A node is labelled like a selector, `div#main.card`. Its path lists the labels from the root element down
to it, and where it lies in a frame, those of the frame first, a bar standing at each boundary.
-/

namespace ElementSearch.Arena

open Text

/-- The label of an element: its tag, its id behind `#`, and its classes behind `.`. -/
def elementLabel (element : Element) : String :=
  let id := ((element.attributeValue "id").filter (· ≠ "")).elim "" ("#" ++ ·)
  let classes := (words ((element.attributeValue "class").getD "")).map ("." ++ ·)
  asciiLowercase element.tag ++ id ++ String.join classes

/-- The label of a node. -/
def label (arena : Arena) (node : Handle) : String :=
  match arena.content? node with
  | some (.document _ _) => "#document"
  | some (.text _) => "#text"
  | some (.element element) => elementLabel element
  | none => "<missing #" ++ Nat.repr node ++ ">"

/-- The labels of a node and of what is above it, innermost first, with a bar for each document in a frame
and nothing for the outermost one, for a number of steps. -/
def pathSegments (arena : Arena) : Nat → Handle → List String
  | 0, _ => []
  | steps + 1, node =>
    if arena.kind node = .document then
      match arena.frameOwner node with
      | some owner => "|" :: pathSegments arena steps owner
      | none => []
    else
      arena.label node ::
        (match arena.parent node with
        | some parent => pathSegments arena steps parent
        | none => [])

/-- The path of a node, `html > body > iframe | html > p`. -/
def path (arena : Arena) (node : Handle) : String :=
  let segments := (arena.pathSegments maxAncestorSteps node).reverse
  let joined := List.intercalate " > ".toList (segments.map String.toList)
  String.ofList (replaceAll " > | > ".toList " | ".toList joined)

end ElementSearch.Arena
