import ElementSearch.Proofs.Tree.Forest

/-!
# Outlines with the same links

Two outlines may have the same kinds and the same links at some nodes, from which no link leads to another one. Then
walks from these nodes, upwards or downwards, visit the same nodes in both outlines, and know all that they visit.
Tags and attributes play no part in where a walk goes.
-/

namespace ElementSearch

variable {Node : Type}

/-- Whether two outlines have the same kinds and links at nodes from which no link leads to others. -/
structure Outline.SharesLinksOn (before after : Outline Node) (known : Node → Prop) : Prop where
  kind : ∀ {node}, known node → after.kind node = before.kind node
  parent : ∀ {node}, known node → after.parent node = before.parent node
  children : ∀ {node}, known node → after.children node = before.children node
  known_parent : ∀ {node up}, known node → before.parent node = some up → known up
  known_child : ∀ {node child}, known node → child ∈ before.children node → known child

namespace Outline.SharesLinksOn

theorem refl (outline : Outline Node) : outline.SharesLinksOn outline fun _ => True where
  kind _ := rfl
  parent _ := rfl
  children _ := rfl
  known_parent _ _ := trivial
  known_child _ _ := trivial

variable {before after : Outline Node} {known : Node → Prop} (shares : before.SharesLinksOn after known)
  {node : Node}
include shares

/-- A known node is an element in both outlines or in neither. -/
theorem isElement (isKnown : known node) : after.isElement node = before.isElement node := by
  rw [Outline.isElement, Outline.isElement, shares.kind isKnown]

section Upwards

/-- What encloses a known node is known. -/
theorem known_of_encloses {above : Node} (isKnown : known node)
    (encloses : before.Encloses above node) : known above := by
  obtain ⟨links, reaches⟩ := encloses
  induction links generalizing node with
  | zero => exact Option.some.inj reaches ▸ isKnown
  | succ links ih =>
    obtain ⟨up, isParent, further⟩ := climb_succ_eq_some_iff.mp reaches
    exact ih (shares.known_parent isKnown isParent) further

/-- A known node has the same parent element in both outlines. -/
theorem parentElement (isKnown : known node) :
    after.parentElement node = before.parentElement node := by
  rw [Outline.parentElement, Outline.parentElement, shares.parent isKnown]
  cases linked : before.parent node with
  | none => rfl
  | some up => simp [Option.filter, shares.isElement (shares.known_parent isKnown linked)]

/-- The parent element of a known node is known. -/
theorem known_of_parentElement {up : Node} (isKnown : known node)
    (linked : before.parentElement node = some up) : known up :=
  shares.known_parent isKnown (Option.filter_eq_some_iff.mp linked).1

/-- A known node has the same lineage in both outlines up to every bound. -/
theorem lineageWithin (steps : Nat) (isKnown : known node) :
    after.lineageWithin steps node = before.lineageWithin steps node := by
  induction steps generalizing node with
  | zero => rfl
  | succ steps ih =>
    rw [Outline.lineageWithin, Outline.lineageWithin, shares.parent isKnown]
    cases linked : before.parent node with
    | none => rfl
    | some up => simp only [ih (shares.known_parent isKnown linked)]

/-- A known node has the same lineage in both outlines. -/
theorem lineage (isKnown : known node) : after.lineage node = before.lineage node :=
  shares.lineageWithin maxAncestorSteps isKnown

/-- The lineage of a known node is known. -/
theorem known_of_mem_lineage {above : Node} (isKnown : known node)
    (member : above ∈ before.lineage node) : known above := by
  obtain ⟨links, _, reaches⟩ := mem_lineage_iff.mp member
  exact shares.known_of_encloses isKnown ⟨links, reaches⟩

/-- A known node is in the same document in both outlines. -/
theorem documentOf (isKnown : known node) : after.documentOf node = before.documentOf node := by
  rw [Outline.documentOf, Outline.documentOf, shares.lineage isKnown, ← List.head?_filter,
    ← List.head?_filter]
  refine congrArg List.head? (List.filter_congr fun above member => ?_)
  rw [shares.kind (shares.known_of_mem_lineage isKnown member)]

/-- The document of a known node is known. -/
theorem known_of_documentOf {document : Node} (isKnown : known node)
    (found : before.documentOf node = some document) : known document :=
  shares.known_of_mem_lineage isKnown (List.mem_of_find?_eq_some found)

end Upwards

section Downwards

/-- A known node has the same element children in both outlines. -/
theorem elementChildren (isKnown : known node) :
    after.elementChildren node = before.elementChildren node := by
  rw [Outline.elementChildren, Outline.elementChildren, shares.children isKnown]
  exact List.filter_congr fun child member => shares.isElement (shares.known_child isKnown member)

/-- The element children of a known node are known. -/
theorem known_of_elementChild {child : Node} (isKnown : known node)
    (member : child ∈ before.elementChildren node) : known child :=
  shares.known_child isKnown (List.mem_of_mem_filter member)

/-- A known document has the same document element in both outlines. -/
theorem documentElement (isKnown : known node) :
    after.documentElement node = before.documentElement node := by
  rw [Outline.documentElement, Outline.documentElement, shares.elementChildren isKnown]

/-- A known node has the same descendants in both outlines down to every depth. -/
theorem descendantsWithin (depth : Nat) (isKnown : known node) :
    after.descendantsWithin depth node = before.descendantsWithin depth node := by
  induction depth generalizing node with
  | zero => rfl
  | succ depth ih =>
    rw [Outline.descendantsWithin, Outline.descendantsWithin, shares.elementChildren isKnown]
    refine List.flatMap_congr fun child member => ?_
    rw [ih (shares.known_of_elementChild isKnown member)]

/-- The descendants of a known node are known. -/
theorem known_of_mem_descendantsWithin {depth : Nat} {below : Node} (isKnown : known node)
    (member : below ∈ before.descendantsWithin depth node) : known below := by
  induction depth generalizing node with
  | zero => cases member
  | succ depth ih =>
    obtain ⟨child, isChild, rfl | further⟩ := mem_descendantsWithin_succ_iff.mp member
    · exact shares.known_of_elementChild isKnown isChild
    · exact ih (shares.known_of_elementChild isKnown isChild) further

end Downwards

section Identity

variable [DecidableEq Node]

/-- A known node is contained in the same nodes in both outlines. -/
theorem contains (above : Node) (isKnown : known node) :
    after.contains above node = before.contains above node := by
  rw [Outline.contains, Outline.contains, shares.lineage isKnown]

/-- A known node has the same ancestors in both outlines up to every bound. -/
theorem ancestorsWithin (origin : Node) (steps : Nat) (isKnown : known node) :
    after.ancestorsWithin origin steps node = before.ancestorsWithin origin steps node := by
  induction steps generalizing node with
  | zero => rfl
  | succ steps ih =>
    rw [Outline.ancestorsWithin, Outline.ancestorsWithin, shares.parentElement isKnown]
    cases linked : before.parentElement node with
    | none => rfl
    | some up => simp only [ih (shares.known_of_parentElement isKnown linked)]

/-- A known node has the same ancestors in both outlines. -/
theorem ancestors (isKnown : known node) : after.ancestors node = before.ancestors node := by
  rw [Outline.ancestors, Outline.ancestors, shares.ancestorsWithin node maxAncestorSteps isKnown]

/-- The ancestors of a known node are known. -/
theorem known_of_mem_ancestors {above : Node} (isKnown : known node)
    (member : above ∈ before.ancestors node) : known above :=
  shares.known_of_encloses isKnown (of_mem_ancestors member).2.encloses

end Identity

end Outline.SharesLinksOn

end ElementSearch
