import ElementSearch.Tree.Outline

/-!
# Outermost nodes

From a list of nodes those are kept that no other node of the list contains. Nodes are taken one by one:
a node that contains kept ones takes the place of the first of them, and a node inside a kept one is
dropped.
-/

namespace ElementSearch.Outline

variable {Node : Type} [DecidableEq Node] (outline : Outline Node)

/-- Adds a candidate to nodes none of which contains another. -/
def absorb (candidate : Node) : List Node → List Node
  | [] => [candidate]
  | kept :: others =>
    if outline.contains candidate kept then
      candidate :: others.filter fun other => !outline.contains candidate other
    else if outline.contains kept candidate then
      kept :: others
    else
      kept :: absorb candidate others

/-- The outermost nodes of a list. -/
def outermost (nodes : List Node) : List Node :=
  nodes.foldl (fun kept candidate => outline.absorb candidate kept) []

theorem outermost_nil : outline.outermost [] = [] := rfl

/-- One more candidate is absorbed into the outermost nodes of those before it. -/
theorem outermost_append (nodes : List Node) (candidate : Node) :
    outline.outermost (nodes ++ [candidate]) =
      outline.absorb candidate (outline.outermost nodes) := by
  simp [outermost]

end ElementSearch.Outline
