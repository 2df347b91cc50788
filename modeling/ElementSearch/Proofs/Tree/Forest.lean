import ElementSearch.Proofs.Tree.Lineage

/-!
# Outlines that are forests

In a linked outline parents and children tell the same story; a forest is a linked outline no chain of which
is longer than its size. There the walks up and the walks down agree: `mem_descendants_iff` and
`mem_ancestors_iff` describe both by `IsAncestor`, provided that no text has children, since walks pass
through elements only. Without that proviso only one direction holds.
-/

namespace ElementSearch.Outline

variable {Node : Type}

/-- Parents and children are the two ends of the same links. -/
structure IsLinked (outline : Outline Node) : Prop where
  mem_children_iff : ∀ {node child},
    child ∈ outline.children node ↔ outline.parent child = some node
  nodup_children : ∀ node, (outline.children node).Nodup
  parent_of_document : ∀ {node}, outline.kind node = .document → outline.parent node = none
  children_of_other : ∀ {node}, outline.kind node = .other → outline.children node = []

/-- A linked outline without cycles, whose size bounds the chains of parents. -/
structure IsForest (outline : Outline Node) : Prop extends outline.IsLinked where
  links_le_size : ∀ {links node above},
    outline.climb links node = some above → links ≤ outline.size

/-- A shallow forest, in which bounded walks are exact. -/
structure IsShallowForest (outline : Outline Node) : Prop extends outline.IsForest where
  shallow : outline.IsShallow

/-- No text has children. -/
def HasLeafTexts (outline : Outline Node) : Prop :=
  ∀ node, outline.kind node = .text → outline.children node = []

variable {outline : Outline Node}

/-- A cycle would make chains of any length. -/
theorem IsForest.isAcyclic (forest : outline.IsForest) : outline.IsAcyclic := by
  rintro node ⟨links, cycle⟩
  have bound := forest.links_le_size (climb_mul_of_cycle cycle (outline.size + 1))
  have grows : outline.size + 1 ≤ (outline.size + 1) * (links + 1) :=
    Nat.le_mul_of_pos_right (outline.size + 1) (Nat.succ_pos links)
  omega

namespace IsLinked

variable (linked : outline.IsLinked)
include linked

/-- The element children of a node are the elements whose parent it is. -/
theorem mem_elementChildren_iff {node child : Node} :
    child ∈ outline.elementChildren node ↔
      outline.parent child = some node ∧ outline.isElement child := by
  rw [elementChildren, List.mem_filter, linked.mem_children_iff]

/-- Nothing lies above a document. -/
theorem eq_of_encloses_document {above document : Node}
    (isDocument : outline.kind document = .document)
    (encloses : outline.Encloses above document) : above = document := by
  by_contra ne
  obtain ⟨parent, below, _⟩ := isAncestor_iff_parent.mp (encloses.isAncestor_of_ne ne)
  rw [linked.parent_of_document isDocument] at below
  cases below

/-- A node between two others is an element: it is no document, since it has a parent, and nothing without
children. -/
theorem isElement_of_between (leaves : outline.HasLeafTexts) {above between below : Node}
    (up : outline.parent between = some above) (down : outline.parent below = some between) :
    outline.isElement between := by
  have child := linked.mem_children_iff.mpr down
  rw [isElement, decide_eq_true_iff]
  cases kind : outline.kind between with
  | element => rfl
  | document => simp [linked.parent_of_document kind] at up
  | text => simp [leaves between kind] at child
  | other => simp [linked.children_of_other kind] at child

/-- In a shallow outline the document of a node is the one above it, if there is one. -/
theorem documentOf_eq_some_iff (shallow : outline.IsShallow) {node document : Node} :
    outline.documentOf node = some document ↔
      outline.Encloses document node ∧ outline.kind document = .document := by
  unfold documentOf
  constructor
  · intro found
    have isDocument := List.find?_some found
    rw [decide_eq_true_iff] at isDocument
    exact ⟨shallow.mem_lineage_iff.mp (List.mem_of_find?_eq_some found), isDocument⟩
  · rintro ⟨encloses, isDocument⟩
    have present : (outline.lineage node).find? (fun above => outline.kind above = .document)
        |>.isSome := by
      rw [List.find?_isSome]
      exact ⟨document, shallow.mem_lineage_iff.mpr encloses, decide_eq_true isDocument⟩
    obtain ⟨other, found⟩ := Option.isSome_iff_exists.mp present
    have otherIsDocument := List.find?_some found
    rw [decide_eq_true_iff] at otherIsDocument
    have otherEncloses := shallow.mem_lineage_iff.mp (List.mem_of_find?_eq_some found)
    rw [found]
    rcases encloses.total otherEncloses with below | below
    · rw [linked.eq_of_encloses_document otherIsDocument below]
    · rw [linked.eq_of_encloses_document isDocument below]

/-- What encloses a node belongs to the same document. -/
theorem documentOf_eq_of_encloses (shallow : outline.IsShallow) {above node : Node}
    (encloses : outline.Encloses above node) :
    outline.documentOf above = outline.documentOf node := by
  have same : ∀ document, outline.documentOf above = some document ↔
      outline.documentOf node = some document := by
    intro document
    rw [linked.documentOf_eq_some_iff shallow, linked.documentOf_eq_some_iff shallow]
    constructor
    · rintro ⟨holds, isDocument⟩
      exact ⟨holds.trans encloses, isDocument⟩
    · rintro ⟨holds, isDocument⟩
      refine ⟨?_, isDocument⟩
      rcases holds.total encloses with below | below
      · exact below
      · rw [linked.eq_of_encloses_document isDocument below]
        exact .refl document
  exact Option.ext same

end IsLinked

section Height

/-- No chain of so many links leads up to a node, so a walk down from it takes fewer steps. -/
def IsLow (outline : Outline Node) (bound : Nat) (node : Node) : Prop :=
  ∀ below, outline.climb bound below ≠ some node

/-- A climb of no links leads from every node to itself, so no node is lower than that. -/
theorem not_isLow_zero (node : Node) : ¬ outline.IsLow 0 node :=
  fun low => low node rfl

/-- A child lies lower than its parent. -/
theorem IsLow.of_parent {bound : Nat} {parent child : Node}
    (low : outline.IsLow (bound + 1) parent) (up : outline.parent child = some parent) :
    outline.IsLow bound child := by
  intro below reaches
  exact low below (climb_succ_last_eq_some_iff.mpr ⟨child, reaches, up⟩)

/-- In a forest no subtree is higher than there are nodes. -/
theorem IsForest.isLow (forest : outline.IsForest) (node : Node) :
    outline.IsLow (outline.size + 1) node := by
  intro below reaches
  exact Nat.not_succ_le_self _ (forest.links_le_size reaches)

end Height

section WellFounded

/-- In a forest every walk down ends. -/
theorem IsForest.wellFounded_children (forest : outline.IsForest) :
    WellFounded fun child node => child ∈ outline.children node := by
  have ends : ∀ (bound : Nat) (node : Node), outline.IsLow bound node →
      Acc (fun child node => child ∈ outline.children node) node := by
    intro bound
    induction bound with
    | zero => exact fun node low => absurd low (not_isLow_zero node)
    | succ bound ih =>
      intro node low
      refine Acc.intro node fun child isChild => ?_
      exact ih child (low.of_parent (forest.mem_children_iff.mp isChild))
  exact ⟨fun node => ends _ node (forest.isLow node)⟩

/-- Around a cycle a walk down never ends. -/
theorem IsLinked.isAcyclic_of_wellFounded (linked : outline.IsLinked)
    (ends : WellFounded fun child node => child ∈ outline.children node) : outline.IsAcyclic := by
  intro node
  induction node using ends.induction with
  | _ node ih =>
    intro cycle
    obtain ⟨child, up, encloses⟩ := isAncestor_iff_child.mp cycle
    refine ih child (linked.mem_children_iff.mpr up) ?_
    exact encloses.trans_isAncestor (isAncestor_of_parent up)

end WellFounded

section Descendants

/-- A descendant is an element child or a descendant of one, one level less deep. -/
theorem mem_descendantsWithin_succ_iff {depth : Nat} {scope node : Node} :
    node ∈ outline.descendantsWithin (depth + 1) scope ↔
      ∃ child ∈ outline.elementChildren scope,
        node = child ∨ node ∈ outline.descendantsWithin depth child := by
  simp [descendantsWithin]

/-- A walk down finds only elements, each of them below its start. -/
theorem IsLinked.of_mem_descendantsWithin (linked : outline.IsLinked) {depth : Nat}
    {scope node : Node} (member : node ∈ outline.descendantsWithin depth scope) :
    outline.isElement node ∧ outline.IsAncestor scope node := by
  induction depth generalizing scope with
  | zero => simp [descendantsWithin] at member
  | succ depth ih =>
    obtain ⟨child, isChild, rfl | below⟩ := mem_descendantsWithin_succ_iff.mp member
    · obtain ⟨up, element⟩ := linked.mem_elementChildren_iff.mp isChild
      exact ⟨element, isAncestor_of_parent up⟩
    · obtain ⟨up, _⟩ := linked.mem_elementChildren_iff.mp isChild
      obtain ⟨element, ancestor⟩ := ih below
      exact ⟨element, isAncestor_iff_child.mpr ⟨child, up, ancestor.encloses⟩⟩

/-- A walk down finds every element that lies so few links below its start. -/
theorem IsLinked.mem_descendantsWithin (linked : outline.IsLinked)
    (leaves : outline.HasLeafTexts) {depth links : Nat} {scope node : Node}
    (element : outline.isElement node) (reaches : outline.climb (links + 1) node = some scope)
    (lt : links < depth) : node ∈ outline.descendantsWithin depth scope := by
  induction depth generalizing links scope with
  | zero => cases lt
  | succ depth ih =>
    obtain ⟨child, below, up⟩ := climb_succ_last_eq_some_iff.mp reaches
    refine mem_descendantsWithin_succ_iff.mpr ⟨child, ?_, ?_⟩
    · refine linked.mem_elementChildren_iff.mpr ⟨up, ?_⟩
      cases links with
      | zero => exact Option.some.inj below ▸ element
      | succ links =>
        obtain ⟨grandchild, _, down⟩ := climb_succ_last_eq_some_iff.mp below
        exact linked.isElement_of_between leaves up down
    · cases links with
      | zero => exact .inl (Option.some.inj below)
      | succ links => exact .inr (ih below (Nat.lt_of_succ_lt_succ lt))

namespace IsForest

variable (forest : outline.IsForest)
include forest

/-- All listed descendants are elements below the scope. -/
theorem of_mem_descendants {scope node : Node} (member : node ∈ outline.descendants scope) :
    outline.isElement node ∧ outline.IsAncestor scope node :=
  forest.of_mem_descendantsWithin member

/-- The descendants of a node are the elements below it. -/
theorem mem_descendants_iff (leaves : outline.HasLeafTexts) {scope node : Node} :
    node ∈ outline.descendants scope ↔
      outline.isElement node ∧ outline.IsAncestor scope node := by
  constructor
  · exact forest.of_mem_descendants
  · rintro ⟨element, links, reaches⟩
    exact forest.mem_descendantsWithin leaves element reaches (forest.links_le_size reaches)

/-- All nodes of a subtree lie at or below its root. -/
theorem encloses_of_mem_subtree {scope node : Node} (member : node ∈ outline.subtree scope) :
    outline.Encloses scope node := by
  rcases List.mem_cons.mp member with rfl | below
  · exact .refl node
  · exact (forest.of_mem_descendants below).2.encloses

/-- A subtree holds its root and the elements below it. -/
theorem mem_subtree_iff (leaves : outline.HasLeafTexts) {scope node : Node} :
    node ∈ outline.subtree scope ↔
      node = scope ∨ outline.isElement node ∧ outline.IsAncestor scope node := by
  rw [subtree, List.mem_cons, forest.mem_descendants_iff leaves]

/-- The size of the outline is a bound that cuts nothing off: a deeper walk finds no more. -/
theorem descendantsWithin_eq_descendants {depth : Nat} (le : outline.size ≤ depth)
    (scope : Node) : outline.descendantsWithin depth scope = outline.descendants scope := by
  have up : ∀ {scope child}, child ∈ outline.elementChildren scope →
      outline.parent child = some scope :=
    fun isChild => (forest.mem_elementChildren_iff.mp isChild).1
  have stable : ∀ (bound depth : Nat) (scope : Node), bound ≤ depth →
      outline.IsLow (bound + 1) scope →
      outline.descendantsWithin depth scope = outline.descendantsWithin bound scope := by
    intro bound
    induction bound with
    | zero =>
      intro depth scope _ low
      have childless : outline.elementChildren scope = [] := by
        refine List.eq_nil_iff_forall_not_mem.mpr fun child isChild => ?_
        exact not_isLow_zero child (low.of_parent (up isChild))
      cases depth <;> simp [descendantsWithin, childless]
    | succ bound ih =>
      rintro (_ | depth) scope le low
      · cases le
      · unfold descendantsWithin
        refine List.flatMap_congr fun child isChild => ?_
        rw [ih depth child (Nat.le_of_succ_le_succ le) (low.of_parent (up isChild))]
  exact stable outline.size depth scope le (forest.isLow scope)

end IsForest

end Descendants

section Ancestors

variable [DecidableEq Node]

/-- A walk up through elements finds only elements, each of them above its start. -/
theorem of_mem_ancestorsWithin {origin above node : Node} {steps : Nat}
    (member : above ∈ outline.ancestorsWithin origin steps node) :
    outline.isElement above ∧ outline.IsAncestor above node := by
  induction steps generalizing node with
  | zero => simp [ancestorsWithin] at member
  | succ steps ih =>
    unfold ancestorsWithin at member
    split at member
    · next parent isParent =>
      obtain ⟨up, element⟩ := Option.filter_eq_some_iff.mp isParent
      split at member
      · cases member
      · rcases List.mem_cons.mp member with rfl | further
        · exact ⟨element, isAncestor_of_parent up⟩
        · obtain ⟨isElement, ancestor⟩ := ih further
          exact ⟨isElement, isAncestor_iff_parent.mpr ⟨parent, up, ancestor.encloses⟩⟩
    · cases member

/-- All listed ancestors are elements above the node. -/
theorem of_mem_ancestors {above node : Node} (member : above ∈ outline.ancestors node) :
    outline.isElement above ∧ outline.IsAncestor above node :=
  of_mem_ancestorsWithin member

/-- A walk up finds every element that lies so few links above its start, unless it comes back to its
origin. -/
theorem IsLinked.mem_ancestorsWithin (linked : outline.IsLinked) (leaves : outline.HasLeafTexts)
    {origin above node : Node} {steps links : Nat} (element : outline.isElement above)
    (reaches : outline.climb (links + 1) node = some above) (lt : links < steps)
    (leavesOrigin : ¬ outline.IsAncestor origin node) :
    above ∈ outline.ancestorsWithin origin steps node := by
  induction steps generalizing links node with
  | zero => cases lt
  | succ steps ih =>
    obtain ⟨parent, up, further⟩ := climb_succ_eq_some_iff.mp reaches
    -- only a text could break the chain of elements, and texts have no children
    have isElement : outline.isElement parent := by
      cases links with
      | zero => exact (Option.some.inj further).symm ▸ element
      | succ links =>
        obtain ⟨grandparent, above, _⟩ := climb_succ_eq_some_iff.mp further
        exact linked.isElement_of_between leaves above up
    have notOrigin : parent ≠ origin := by
      rintro rfl
      exact leavesOrigin (isAncestor_of_parent up)
    have isParent : outline.parentElement node = some parent :=
      Option.filter_eq_some_iff.mpr ⟨up, isElement⟩
    rw [ancestorsWithin, isParent]
    simp only [notOrigin, if_false, List.mem_cons]
    cases links with
    | zero => exact .inl (Option.some.inj further).symm
    | succ links =>
      refine .inr (ih further (Nat.lt_of_succ_lt_succ lt) fun again => leavesOrigin ?_)
      exact isAncestor_iff_parent.mpr ⟨parent, up, again.encloses⟩

/-- The ancestors of a node are the elements above it. -/
theorem IsLinked.mem_ancestors_iff (linked : outline.IsLinked) (leaves : outline.HasLeafTexts)
    (shallow : outline.IsShallow) {above node : Node} :
    above ∈ outline.ancestors node ↔ outline.isElement above ∧ outline.IsAncestor above node := by
  constructor
  · exact of_mem_ancestors
  · rintro ⟨element, links, reaches⟩
    have lt : links + 1 < maxAncestorSteps := by
      refine Nat.lt_of_not_le fun le => ?_
      rw [climb_eq_none_of_le (shallow node) le] at reaches
      cases reaches
    exact linked.mem_ancestorsWithin leaves element reaches (by omega)
      (shallow.isAcyclic node)

end Ancestors

end ElementSearch.Outline
