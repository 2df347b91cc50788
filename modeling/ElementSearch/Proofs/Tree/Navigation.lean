import ElementSearch.Proofs.Tree.ElementChains
import ElementSearch.Proofs.Tree.Subtrees

/-!
# Walks through elements

`throughElements` leaves out the links to what is no element. A climb along its links is a climb that meets elements only
(`climb_throughElements_eq_some_iff`), so without cycles it leads to the elements above which no other node but elements
lies between. Between two elements of a forest the walk down takes the same links the other way
(`IsForest.mem_descendants_iff_throughElements`). The walk up takes them until it has found `maxAncestorSteps` elements,
the last one of which lies so many links up (`HasElementsUpTo.mem_ancestors_iff`).
-/

namespace ElementSearch.Outline

variable {Node : Type} {outline : Outline Node} {above node : Node}

/-- Whether a node lies above one node and below another one. -/
def IsBetween (outline : Outline Node) (above between node : Node) : Prop :=
  outline.IsAncestor above between ∧ outline.IsAncestor between node

/-- Whether all nodes above a node, up to another one and with it, are elements. -/
def HasElementsUpTo (outline : Outline Node) (above node : Node) : Prop :=
  ∀ between, outline.Encloses above between → outline.IsAncestor between node →
    outline.isElement between

/-- Without cycles, only one number of links leads from a node to another one. -/
theorem IsAcyclic.climb_inj (acyclic : outline.IsAcyclic) {first second : Nat}
    (left : outline.climb first node = some above) (right : outline.climb second node = some above) :
    first = second := by
  have notShorter : ∀ {short long : Nat}, outline.climb short node = some above →
      outline.climb long node = some above → ¬ short < long := by
    intro short long reaches again lt
    obtain ⟨extra, rfl⟩ := Nat.exists_eq_add_of_lt lt
    have around := climb_sub reaches again (Nat.le_of_lt lt)
    rw [Nat.add_assoc, Nat.add_sub_cancel_left] at around
    exact acyclic above ⟨extra, around⟩
  exact Nat.le_antisymm (Nat.le_of_not_lt (notShorter right left))
    (Nat.le_of_not_lt (notShorter left right))

/-- A climb through elements is a climb that meets only elements. -/
theorem climb_throughElements_eq_some_iff {links : Nat} :
    outline.throughElements.climb links node = some above ↔
      outline.climb links node = some above ∧
        ∀ fewer < links, ∀ between, outline.climb (fewer + 1) node = some between →
          outline.isElement between := by
  induction links generalizing node with
  | zero => simp
  | succ links ih =>
    have up_iff : ∀ {parent}, outline.throughElements.parent node = some parent ↔
        outline.parent node = some parent ∧ outline.isElement parent :=
      Option.filter_eq_some_iff
    rw [climb_succ_eq_some_iff, climb_succ_eq_some_iff]
    constructor
    · rintro ⟨parent, linked, passes⟩
      obtain ⟨up, element⟩ := up_iff.mp linked
      obtain ⟨reaches, elements⟩ := ih.mp passes
      refine ⟨⟨parent, up, reaches⟩, fun fewer lt between further => ?_⟩
      rw [climb_succ_of_parent up] at further
      cases fewer with
      | zero => exact Option.some.inj further ▸ element
      | succ fewer => exact elements fewer (Nat.lt_of_succ_lt_succ lt) between further
    · rintro ⟨⟨parent, up, reaches⟩, elements⟩
      refine ⟨parent, up_iff.mpr ⟨up, ?_⟩, ih.mpr ⟨reaches, fun fewer lt between further => ?_⟩⟩
      · exact elements 0 (Nat.succ_pos links) parent ((climb_one node).trans up)
      · refine elements (fewer + 1) (Nat.succ_lt_succ lt) between ?_
        rw [climb_succ_of_parent up, further]

/-- Where all nodes up to another one are elements, climbing through elements is no different. -/
theorem HasElementsUpTo.climb_throughElements (elements : outline.HasElementsUpTo above node)
    {links : Nat} :
    outline.throughElements.climb links node = some above ↔
      outline.climb links node = some above := by
  rw [climb_throughElements_eq_some_iff]
  refine and_iff_left_of_imp fun reaches fewer lt between passes => ?_
  exact elements between ⟨_, climb_sub passes reaches lt⟩ ⟨fewer, passes⟩

/-- An element is reached through elements if and only if it lies above and only elements lie between. -/
theorem IsAcyclic.isAncestor_throughElements_iff (acyclic : outline.IsAcyclic)
    (element : outline.isElement above) :
    outline.throughElements.IsAncestor above node ↔
      outline.IsAncestor above node ∧
        ∀ between, outline.IsBetween above between node → outline.isElement between := by
  constructor
  · rintro ⟨links, passes⟩
    obtain ⟨reaches, elements⟩ := climb_throughElements_eq_some_iff.mp passes
    refine ⟨⟨links, reaches⟩, ?_⟩
    rintro between ⟨⟨upper, onwards⟩, ⟨lower, passes⟩⟩
    have whole : outline.climb (lower + 1 + (upper + 1)) node = some above := by
      rw [climb_add, passes, Option.bind_some, onwards]
    have count := acyclic.climb_inj reaches whole
    exact elements lower (by omega) between passes
  · rintro ⟨⟨links, reaches⟩, elements⟩
    have upTo : outline.HasElementsUpTo above node := by
      intro between encloses ancestor
      rcases encloses_iff_eq_or_isAncestor.mp encloses with rfl | isAbove
      · exact element
      · exact elements between ⟨isAbove, ancestor⟩
    exact ⟨links, upTo.climb_throughElements.mpr reaches⟩

section Down

/-- What lies between two nodes is a text or an element. -/
theorem IsLinked.isElement_iff_of_isBetween (linked : outline.IsLinked) {between : Node}
    (lies : outline.IsBetween above between node) :
    outline.isElement between ↔ outline.kind between ≠ .text := by
  obtain ⟨parent, up, _⟩ := isAncestor_iff_parent.mp lies.1
  obtain ⟨child, down, _⟩ := isAncestor_iff_child.mp lies.2
  have isChild := linked.mem_children_iff.mpr down
  rw [isElement, decide_eq_true_iff]
  cases kind : outline.kind between with
  | element => simp
  | text => simp
  | document => simp [linked.parent_of_document kind] at up
  | other => simp [linked.children_of_other kind] at isChild

/-- Between elements, the walk down goes where the links through elements lead up. -/
theorem IsForest.mem_descendants_iff_throughElements (forest : outline.IsForest)
    (isAbove : outline.isElement above) (isBelow : outline.isElement node) :
    node ∈ outline.descendants above ↔ outline.throughElements.IsAncestor above node := by
  rw [forest.mem_descendants_iff_transGen]
  constructor
  · intro chain
    induction chain using Relation.TransGen.head_induction_on with
    | single isChild =>
      obtain ⟨up, _⟩ := forest.mem_elementChildren_iff.mp isChild
      exact isAncestor_of_parent (Option.filter_eq_some_iff.mpr ⟨up, isAbove⟩)
    | head isChild _ ih =>
      obtain ⟨up, element⟩ := forest.mem_elementChildren_iff.mp isChild
      refine isAncestor_iff_child.mpr ⟨_, ?_, (ih element).encloses⟩
      exact Option.filter_eq_some_iff.mpr ⟨up, isAbove⟩
  · rintro ⟨links, passes⟩
    induction links generalizing node with
    | zero =>
      obtain ⟨up, _⟩ := Option.filter_eq_some_iff.mp ((climb_one node).symm.trans passes)
      exact .single (forest.mem_elementChildren_iff.mpr ⟨up, isBelow⟩)
    | succ links ih =>
      obtain ⟨parent, linked, further⟩ := climb_succ_eq_some_iff.mp passes
      obtain ⟨up, element⟩ := Option.filter_eq_some_iff.mp linked
      exact .tail (ih element further) (forest.mem_elementChildren_iff.mpr ⟨up, isBelow⟩)

/-- No chain of elements is longer than the chain of parents that it is a part of. -/
theorem IsShallow.chainEnds (shallow : outline.IsShallow) (node : Node) : outline.ChainEnds node := by
  refine Option.eq_none_iff_forall_ne_some.mpr fun above passes => ?_
  have reaches := (climb_throughElements_eq_some_iff.mp passes).1
  rw [climb_eq_none_of_le (shallow node) (Nat.le_succ _)] at reaches
  cases reaches

end Down

/-- Along elements that do not come back, the ancestors of a node are what so many links or fewer lead to. -/
theorem HasElementsUpTo.mem_ancestors_iff [DecidableEq Node]
    (elements : outline.HasElementsUpTo above node)
    (acyclic : outline.IsAcyclic) (ne : above ≠ node) :
    above ∈ outline.ancestors node ↔
      ∃ links ≤ maxAncestorSteps, outline.climb links node = some above := by
  rw [mem_ancestors_iff_climb]
  constructor
  · rintro ⟨links, lt, passes, _⟩
    exact ⟨links + 1, lt, elements.climb_throughElements.mp passes⟩
  · rintro ⟨_ | links, le, reaches⟩
    · exact absurd (Option.some.inj reaches).symm ne
    · refine ⟨links, le, elements.climb_throughElements.mpr reaches, fun fewer _ returns => ?_⟩
      exact acyclic node ⟨fewer, (climb_throughElements_eq_some_iff.mp returns).1⟩

end ElementSearch.Outline
