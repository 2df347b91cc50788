import ElementSearch.Arena.Basic

/-!
# Document order in an arena

Nodes are ordered by the positions of their ancestors among the children of their parents, read from
the root down. Nodes of different trees are ordered by their roots.
-/

namespace ElementSearch.Arena

/-- Extends a key upwards: in front of it come the position of the node under its parent, that of the
parent, and so on for a number of steps, and at last the handle of the topmost node. -/
def extendOrderKey (arena : Arena) : Nat → Handle → List Nat → List Nat
  | 0, node, key => node :: key
  | steps + 1, node, key =>
    match arena.parent node with
    | none => node :: key
    | some parent =>
      extendOrderKey arena steps parent (((arena.children parent).idxOf? node).getD 0 :: key)

/-- The key by which a node is ordered. It looks one step further up than other walks. -/
def orderKey (arena : Arena) (node : Handle) : List Nat :=
  arena.extendOrderKey (maxAncestorSteps + 1) node []

/-- The dictionary order of keys. -/
def keyLe : List Nat → List Nat → Bool
  | [], _ => true
  | _ :: _, [] => false
  | first :: rest, other :: others => first < other || (first == other && keyLe rest others)

/-- Nodes in document order. -/
def inDocumentOrder (arena : Arena) (nodes : List Handle) : List Handle :=
  let keyed := nodes.map fun node => (arena.orderKey node, node)
  (keyed.mergeSort fun left right => keyLe left.1 right.1).map (·.2)

theorem keyLe_refl (key : List Nat) : keyLe key key = true := by
  induction key with
  | nil => rfl
  | cons first rest ih => simp [keyLe, ih]

end ElementSearch.Arena
