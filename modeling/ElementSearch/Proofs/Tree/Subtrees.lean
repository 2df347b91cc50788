import ElementSearch.Proofs.Search.Outermost
import ElementSearch.Proofs.Tree.Forest
import Mathlib.Data.List.Flatten

/-!
# Subtrees in document order

In a forest a subtree is its root followed by the subtrees of the children that are elements, so the list of its nodes
is their preorder. It enters a node before what lies below the node, and it holds the subtrees of nodes that lie apart
one behind the other: `IsForest.flatMap_subtree_sublist`. Everything that a search puts together from parts of a subtree
is in document order for this reason.
-/

namespace ElementSearch.Outline

variable {Node : Type}

/-- Whether a node is an element and the child of another one. -/
def IsElementChild (outline : Outline Node) (upper lower : Node) : Prop :=
  lower ∈ outline.elementChildren upper

variable {outline : Outline Node}

namespace IsForest

variable (forest : outline.IsForest)
include forest

/-- The descendants of a node are the subtrees of its element children, one after the other. -/
theorem descendants_eq_flatMap (scope : Node) :
    outline.descendants scope = (outline.elementChildren scope).flatMap outline.subtree := by
  rw [← forest.descendantsWithin_eq_descendants (Nat.le_succ outline.size) scope]
  rfl

/-- The subtree of a node is the node and, after it, the subtrees of its element children. -/
theorem subtree_eq_cons_flatMap (scope : Node) :
    outline.subtree scope = scope :: (outline.elementChildren scope).flatMap outline.subtree := by
  rw [subtree, forest.descendants_eq_flatMap]

/-- A property of a node that follows from that of its children holds of all nodes. -/
theorem induction_elementChildren {motive : Node → Prop}
    (step : ∀ scope, (∀ child ∈ outline.elementChildren scope, motive child) → motive scope)
    (scope : Node) : motive scope :=
  forest.wellFounded_children.induction scope fun scope below =>
    step scope fun child isChild => below child (List.mem_of_mem_filter isChild)

/-- The descendants of a node are what chains of element children lead to. -/
theorem mem_descendants_iff_transGen {scope node : Node} :
    node ∈ outline.descendants scope ↔ Relation.TransGen outline.IsElementChild scope node := by
  constructor
  · intro member
    induction scope using forest.induction_elementChildren with
    | step scope ih =>
      rw [forest.descendants_eq_flatMap, List.mem_flatMap] at member
      obtain ⟨child, isChild, inChild⟩ := member
      rcases List.mem_cons.mp inChild with rfl | below
      · exact .single isChild
      · exact .head isChild (ih child isChild below)
  · intro chain
    induction chain using Relation.TransGen.head_induction_on with
    | single isChild =>
      rw [forest.descendants_eq_flatMap]
      exact List.mem_flatMap.mpr ⟨node, isChild, List.mem_cons_self⟩
    | head isChild _ below =>
      rw [forest.descendants_eq_flatMap]
      exact List.mem_flatMap.mpr ⟨_, isChild, List.mem_cons_of_mem _ below⟩

/-- A subtree enters a node before what lies below it, and never comes back. -/
theorem pairwise_subtree (scope : Node) :
    (outline.subtree scope).Pairwise fun earlier later => ¬ outline.Encloses later earlier := by
  induction scope using forest.induction_elementChildren with
  | step scope ih =>
    rw [forest.subtree_eq_cons_flatMap]
    refine List.pairwise_cons.mpr ⟨fun node below encloses => ?_, ?_⟩
    · rw [← forest.descendants_eq_flatMap] at below
      have ancestor := (forest.of_mem_descendants below).2
      exact forest.isAcyclic scope (ancestor.trans_encloses encloses)
    · have siblings : (outline.elementChildren scope).Nodup := (forest.nodup_children scope).filter _
      refine List.pairwise_flatMap.mpr ⟨ih, siblings.imp_of_mem ?_⟩
      intro first second isFirst isSecond differ left inFirst right inSecond encloses
      refine differ (forest.isAcyclic.eq_of_siblings (forest.mem_elementChildren_iff.mp isFirst).1
        (forest.mem_elementChildren_iff.mp isSecond).1 (forest.encloses_of_mem_subtree inFirst) ?_)
      exact (forest.encloses_of_mem_subtree inSecond).trans encloses

/-- No node is listed twice in a subtree. -/
theorem nodup_subtree (scope : Node) : (outline.subtree scope).Nodup := by
  refine (forest.pairwise_subtree scope).imp fun apart => ?_
  rintro rfl
  exact apart (.refl _)

/-- The subtrees of nodes of a subtree that lie apart stand in it one behind the other. -/
theorem flatMap_subtree_sublist {scope : Node} {nodes : List Node}
    (inside : nodes.Sublist (outline.subtree scope)) (apart : nodes.Pairwise outline.Apart) :
    (nodes.flatMap outline.subtree).Sublist (outline.subtree scope) := by
  induction scope using forest.induction_elementChildren generalizing nodes with
  | step scope ih =>
    -- nodes below some of the children fall into parts, one below each child
    have below : ∀ (children : List Node) (nodes : List Node),
        (∀ child ∈ children, child ∈ outline.elementChildren scope) →
        nodes.Sublist (children.flatMap outline.subtree) → nodes.Pairwise outline.Apart →
        (nodes.flatMap outline.subtree).Sublist (children.flatMap outline.subtree) := by
      intro children
      induction children with
      | nil =>
        intro nodes _ inside _
        rw [List.sublist_nil.mp inside]
      | cons child others further =>
        intro nodes areChildren inside apart
        rw [List.flatMap_cons] at inside ⊢
        obtain ⟨front, back, rfl, inChild, inOthers⟩ := List.sublist_append_iff.mp inside
        obtain ⟨apartFront, apartBack, _⟩ := List.pairwise_append.mp apart
        rw [List.flatMap_append]
        exact (ih child (areChildren child List.mem_cons_self) inChild apartFront).append
          (further back (fun other member => areChildren other (.tail _ member)) inOthers apartBack)
    rw [forest.subtree_eq_cons_flatMap] at inside ⊢
    cases inside with
    | cons _ inside => exact (below _ nodes (fun _ isChild => isChild) inside apart).cons _
    | @cons_cons rest _ _ inside =>
      -- the root encloses all other nodes, so it is the only one
      have alone : rest = [] := by
        refine List.eq_nil_iff_forall_not_mem.mpr fun node member => ?_
        refine ((List.pairwise_cons.mp apart).1 node member).1 (forest.encloses_of_mem_subtree ?_)
        rw [forest.subtree_eq_cons_flatMap]
        exact List.mem_cons_of_mem _ (inside.subset member)
      rw [alone, List.flatMap_singleton, forest.subtree_eq_cons_flatMap]

end IsForest

end ElementSearch.Outline
