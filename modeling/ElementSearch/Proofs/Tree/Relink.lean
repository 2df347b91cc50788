import ElementSearch.Proofs.Tree.Lineage

/-!
# Moving a node

A move gives one node another parent and changes no other link. What lies above a node after the move lies above it
before, or lies above the new parent of the moved node and the moved node above it. So a move makes a cycle if and
only if the moved node encloses its new parent, at whatever distance: `Relinked.isAcyclic_iff`.
-/

namespace ElementSearch.Outline

variable {Node : Type} [DecidableEq Node]

/-- Whether two outlines differ in the parent of one node only. -/
def Relinked (before after : Outline Node) (child newParent : Node) : Prop :=
  ∀ node, after.parent node = if node = child then some newParent else before.parent node

variable {before after : Outline Node} {child newParent : Node}

section Move

variable (relinked : before.Relinked after child newParent)
include relinked

/-- The child has its new parent. -/
theorem Relinked.parent_child : after.parent child = some newParent := by
  rw [relinked, if_pos rfl]

/-- All other nodes keep their parents. -/
theorem Relinked.parent_of_ne {node : Node} (ne : node ≠ child) :
    after.parent node = before.parent node := by
  rw [relinked, if_neg ne]

/-- What the moved node enclosed before, it encloses afterwards. -/
theorem Relinked.encloses_child {node : Node} (encloses : before.Encloses child node) :
    after.Encloses child node := by
  obtain ⟨links, reaches⟩ := encloses
  induction links generalizing node with
  | zero => exact ⟨0, reaches⟩
  | succ links ih =>
    by_cases same : node = child
    · exact same ▸ .refl node
    · obtain ⟨parent, linked, further⟩ := climb_succ_eq_some_iff.mp reaches
      refine IsAncestor.encloses (isAncestor_iff_parent.mpr ⟨parent, ?_, ih further⟩)
      rw [relinked.parent_of_ne same, linked]

/-- The two ways in which a node encloses another one after the move. -/
theorem Relinked.of_encloses (free : ¬ before.Encloses child newParent) {above node : Node}
    (encloses : after.Encloses above node) :
    before.Encloses above node ∨
      before.Encloses child node ∧ before.Encloses above newParent := by
  obtain ⟨links, reaches⟩ := encloses
  induction links generalizing node with
  | zero => exact .inl ⟨0, reaches⟩
  | succ links ih =>
    obtain ⟨parent, linked, further⟩ := climb_succ_eq_some_iff.mp reaches
    by_cases same : node = child
    · subst same
      cases relinked.parent_child.symm.trans linked
      rcases ih further with direct | ⟨inside, _⟩
      · exact .inr ⟨.refl node, direct⟩
      · exact absurd inside free
    · rw [relinked.parent_of_ne same] at linked
      have up : ∀ {other}, before.Encloses other parent → before.Encloses other node :=
        fun holds => (isAncestor_iff_parent.mpr ⟨parent, linked, holds⟩).encloses
      exact (ih further).imp up fun ⟨inside, onTop⟩ => ⟨up inside, onTop⟩

/-- A move makes a cycle if and only if the moved node encloses its new parent. -/
theorem Relinked.isAcyclic_iff (acyclic : before.IsAcyclic) :
    after.IsAcyclic ↔ ¬ before.Encloses child newParent := by
  constructor
  · intro stillAcyclic encloses
    have below : after.Encloses child newParent := relinked.encloses_child encloses
    exact stillAcyclic child
      (isAncestor_iff_parent.mpr ⟨newParent, relinked.parent_child, below⟩)
  · intro free node cycle
    obtain ⟨parent, linked, encloses⟩ := isAncestor_iff_parent.mp cycle
    by_cases same : node = child
    · subst same
      cases relinked.parent_child.symm.trans linked
      rcases relinked.of_encloses free encloses with direct | ⟨inside, _⟩
      · exact free direct
      · exact free inside
    · rw [relinked.parent_of_ne same] at linked
      rcases relinked.of_encloses free encloses with direct | ⟨inside, onTop⟩
      · exact acyclic node (isAncestor_iff_parent.mpr ⟨parent, linked, direct⟩)
      · -- the moved node is above `node`, which is above the new parent
        have above := isAncestor_iff_parent.mpr ⟨parent, linked, inside⟩
        exact free (above.encloses.trans onTop)

end Move

end ElementSearch.Outline
