import ElementSearch.Proofs.History.Reachable
import ElementSearch.Proofs.Tree.Forest

/-!
# The links of reachable arenas

In every reachable arena parents and children tell the same story, each link leads to a node of the arena, and
a frame holds a document. Nothing of this depends on the depth of the arena. Where its chains of parents are
short enough for a walk towards the root, its outline is a forest in which bounded walks are exact.
-/

namespace ElementSearch.Arena

/-- The links of an arena are consistent and lead to its own nodes. -/
structure HasLinks (arena : Arena) : Prop where
  isLinked : arena.outline.IsLinked
  parent_lt : ∀ {node up}, arena.parent node = some up → up < arena.size
  kind_of_frame : ∀ {node element document}, arena.element? node = some element →
    element.frame = some document → arena.kind document = .document

section Invariant

variable {arena : Arena}

/-- The empty arena is linked: there is no link to be one-sided. -/
theorem HasLinks.empty : HasLinks Arena.empty := by
  have noRecord : ∀ node, Arena.empty.record? node = none := fun _ => rfl
  have noParent : ∀ node, Arena.empty.parent node = none := fun _ => rfl
  have noChildren : ∀ node, Arena.empty.children node = [] := fun _ => rfl
  refine ⟨⟨?_, ?_, ?_, ?_⟩, ?_, ?_⟩
  · intro node child
    simp [outline, noParent, noChildren]
  · intro node
    simp [outline, noChildren]
  · intro node _
    exact noParent node
  · intro node _
    exact noChildren node
  · intro node up linked
    cases (noParent node).symm.trans linked
  · intro node element document present
    cases present

variable (links : arena.HasLinks)
include links

/-- In a linked arena a node is the child of exactly its parent. -/
theorem HasLinks.mem_children_iff {node child : Handle} :
    child ∈ arena.children node ↔ arena.parent child = some node :=
  links.isLinked.mem_children_iff

/-- In a linked arena no node is listed twice among the children of its parent. -/
theorem HasLinks.nodup_children (node : Handle) : (arena.children node).Nodup :=
  links.isLinked.nodup_children node

/-- A change that keeps parents, children and kinds keeps the links, if frames still hold documents. -/
theorem HasLinks.of_same {after : Arena} (size : after.size = arena.size)
    (parent : after.parent = arena.parent) (children : after.children = arena.children)
    (kind : after.kind = arena.kind)
    (frame : ∀ {node element document}, after.element? node = some element →
      element.frame = some document → arena.kind document = .document) : after.HasLinks where
  isLinked := by
    have sameParent : after.outline.parent = arena.outline.parent := parent
    have sameChildren : after.outline.children = arena.outline.children := children
    have sameKind : after.outline.kind = arena.outline.kind := kind
    constructor
    · rw [sameParent, sameChildren]
      exact links.isLinked.mem_children_iff
    · rw [sameChildren]
      exact links.isLinked.nodup_children
    · rw [sameParent, sameKind]
      exact links.isLinked.parent_of_document
    · rw [sameChildren, sameKind]
      exact links.isLinked.children_of_other
  parent_lt := by
    rw [parent, size]
    exact links.parent_lt
  kind_of_frame := by
    rw [kind]
    exact frame

/-- A bare node pushed onto a linked arena has no links, so the arena stays linked. -/
theorem HasLinks.push {content : Content} (bare : content.IsBare) :
    (arena.push content).1.HasLinks := by
  refine ⟨⟨?_, ?_, ?_, ?_⟩, ?_, ?_⟩
  · intro node child
    simp only [outline, parent_push, children_push]
    exact links.mem_children_iff
  · intro node
    simp only [outline, children_push]
    exact links.nodup_children node
  · intro node isDocument
    simp only [outline, parent_push, kind_push] at isDocument ⊢
    by_cases new : node = arena.size
    · exact new ▸ arena.parent_size
    · rw [if_neg new] at isDocument
      exact links.isLinked.parent_of_document isDocument
  · intro node isOther
    simp only [outline, children_push] at isOther ⊢
    rw [kind_eq_other_iff, size_push] at isOther
    exact links.isLinked.children_of_other
      ((arena.kind_eq_other_iff node).mpr (Nat.le_of_succ_le isOther))
  · intro node up linked
    rw [parent_push] at linked
    rw [size_push]
    exact Nat.lt_succ_of_lt (links.parent_lt linked)
  · intro node element document isElement holds
    rw [element?_push] at isElement
    by_cases new : node = arena.size
    · -- an element that was just made is no frame
      rw [if_pos new] at isElement
      cases content with
      | document => cases isElement
      | text => cases isElement
      | element known =>
        cases isElement
        rw [show element = .plain element.tag from bare] at holds
        cases holds
    · rw [if_neg new] at isElement
      have isDocument := links.kind_of_frame isElement holds
      rw [kind_push, if_neg]
      · exact isDocument
      · rintro rfl
        rw [kind_size] at isDocument
        cases isDocument

section Move

variable {newParent child : Handle}

/-- When a node leaves its parent, the other children stay. -/
theorem HasLinks.mem_staying_iff {node other : Handle} :
    other ∈ (if arena.parent child = some node then (arena.children node).filter (· ≠ child)
        else arena.children node) ↔
      other ≠ child ∧ arena.parent other = some node := by
  split
  · rw [List.mem_filter, links.mem_children_iff, decide_eq_true_iff, and_comm]
  · next elsewhere =>
    rw [links.mem_children_iff]
    constructor
    · intro linked
      exact ⟨fun same => elsewhere (same ▸ linked), linked⟩
    · exact And.right

/-- Parents and children agree again after a node has been attached elsewhere. -/
theorem HasLinks.mem_children_attach_iff (parentLt : newParent < arena.size)
    (childLt : child < arena.size) {node other : Handle} :
    other ∈ (arena.attach newParent child).children node ↔
      (arena.attach newParent child).parent other = some node := by
  rw [arena.children_attach child parentLt, arena.parent_attach newParent childLt, List.mem_append,
    links.mem_staying_iff]
  by_cases same : other = child
  · by_cases isParent : node = newParent
    · simp [same, isParent]
    · have differs : newParent ≠ node := fun eq => isParent eq.symm
      simp [same, isParent, differs]
  · by_cases isParent : node = newParent <;> simp [same, isParent]

/-- Attaching lists the child once: it is dropped where it was before it is added. -/
theorem HasLinks.nodup_children_attach (parentLt : newParent < arena.size) (node : Handle) :
    ((arena.attach newParent child).children node).Nodup := by
  rw [arena.children_attach child parentLt]
  refine List.nodup_append.mpr ⟨?_, ?_, ?_⟩
  · split
    · exact (links.nodup_children node).filter _
    · exact links.nodup_children node
  · split <;> simp
  · intro staying isStaying moved isMoved same
    have notChild := (links.mem_staying_iff.mp isStaying).1
    split at isMoved
    · exact notChild (same.trans (List.mem_singleton.mp isMoved))
    · cases isMoved

/-- A move keeps the links: the child leaves one list of children and enters another one. -/
theorem HasLinks.attach (accepted : arena.appendError? newParent child = none) :
    (arena.attach newParent child).HasLinks := by
  obtain ⟨parentLt, childLt, notDocument, _⟩ := arena.appendError?_eq_none_iff.mp accepted
  refine ⟨⟨?_, ?_, ?_, ?_⟩, ?_, ?_⟩
  · intro node other
    simp only [outline]
    exact links.mem_children_attach_iff parentLt childLt
  · intro node
    simp only [outline]
    exact links.nodup_children_attach parentLt node
  · intro node isDocument
    simp only [outline, kind_attach, arena.parent_attach newParent childLt] at isDocument ⊢
    rw [if_neg]
    · exact links.isLinked.parent_of_document isDocument
    · rintro rfl
      exact notDocument isDocument
  · intro node isOther
    simp only [outline, kind_attach, arena.children_attach child parentLt] at isOther ⊢
    have nothing : arena.children node = [] := links.isLinked.children_of_other isOther
    have differs : node ≠ newParent := by
      rintro rfl
      exact Nat.not_lt_of_le ((arena.kind_eq_other_iff node).mp isOther) parentLt
    simp [nothing, differs]
  · intro node up linked
    rw [arena.parent_attach newParent childLt] at linked
    rw [size_attach]
    split at linked
    · cases linked
      exact parentLt
    · exact links.parent_lt linked
  · intro node element document isElement holds
    rw [element?_attach] at isElement
    rw [kind_attach]
    exact links.kind_of_frame isElement holds

end Move

end Invariant

/-- Growth keeps the links. -/
theorem HasLinks.grow {before after : Arena} (growth : Growth before after)
    (links : before.HasLinks) : after.HasLinks := by
  cases growth with
  | create bare => exact links.push bare
  | adopt accepted loose childless => exact links.attach accepted
  | @write node element name value =>
    -- no link changes, so only what elements hold as their frames is looked at
    refine links.of_same (by simp) (by simp) (by simp) (by simp) ?_
    intro other known document present holds
    rw [element?_writeAttribute] at present
    split at present
    · obtain ⟨former, isFormer, rfl⟩ := Option.map_eq_some_iff.mp present
      exact links.kind_of_frame isFormer holds
    · exact links.kind_of_frame present holds
  | @restyle node change keeps =>
    refine links.of_same (by simp) (by simp) (by simp) (by simp) ?_
    intro other known document present holds
    rw [element?_modifyElement] at present
    split at present
    · obtain ⟨former, isFormer, rfl⟩ := Option.map_eq_some_iff.mp present
      rw [(keeps former).2.2] at holds
      exact links.kind_of_frame isFormer holds
    · exact links.kind_of_frame present holds
  | own document owner =>
    refine links.of_same (by simp) (by simp) (by simp) (by simp) ?_
    intro other known document present holds
    rw [element?_setFrameOwner] at present
    exact links.kind_of_frame present holds
  | @embed document isDocument frame =>
    refine links.of_same (by simp) (by simp) (by simp) (by simp) ?_
    intro other known inner present holds
    rw [element?_modifyElement] at present
    split at present
    · obtain ⟨former, isFormer, rfl⟩ := Option.map_eq_some_iff.mp present
      cases holds
      exact isDocument
    · exact links.kind_of_frame present holds

/-- A history keeps the links consistent. -/
theorem HasLinks.after {arena : Arena} (links : arena.HasLinks) (history : List Operation) :
    (arena.after history).HasLinks :=
  after_preserves HasLinks.grow (fun accepted kept => kept.attach accepted) links history

/-- In every reachable arena the links are consistent. -/
theorem Reachable.hasLinks {arena : Arena} (reachable : arena.Reachable) : arena.HasLinks :=
  reachable.induction .empty HasLinks.grow fun accepted links => links.attach accepted

section Forest

variable {arena : Arena}

/-- Where every parent is older than its child, there are no cycles. -/
theorem isAcyclic_of_parent_lt (older : ∀ {node up}, arena.parent node = some up → up < node) :
    arena.outline.IsAcyclic := by
  have descends : ∀ links node above, arena.outline.climb links node = some above →
      above ≤ node := by
    intro links
    induction links with
    | zero =>
      intro node above reaches
      exact Nat.le_of_eq (Option.some.inj reaches).symm
    | succ links ih =>
      intro node above reaches
      obtain ⟨up, linked, further⟩ := Outline.climb_succ_eq_some_iff.mp reaches
      exact Nat.le_of_lt (Nat.lt_of_le_of_lt (ih up above further) (older linked))
  rintro node ⟨links, cycle⟩
  obtain ⟨up, linked, further⟩ := Outline.climb_succ_eq_some_iff.mp cycle
  exact Nat.not_lt_of_le (descends links up node further) (older linked)

/-- An arena is shallow if the chain of parents above each of its nodes ends in time. -/
theorem isShallow_of_ends
    (ends : ∀ node < arena.size, ∃ links ≤ maxAncestorSteps, arena.outline.climb links node = none) :
    arena.outline.IsShallow := by
  intro node
  by_cases lt : node < arena.size
  · obtain ⟨_, le, isEnd⟩ := ends node lt
    exact Outline.climb_eq_none_of_le isEnd le
  · have noParent : arena.outline.parent node = none :=
      Option.eq_none_iff_forall_ne_some.mpr fun _ linked =>
        lt (arena.lt_size_of_parent_eq_some linked)
    exact Outline.climb_eq_none_of_le ((Outline.climb_one node).trans noParent) (by decide)

variable (links : arena.HasLinks)
include links

/-- What lies above a node is a node of the arena. -/
theorem HasLinks.lt_of_encloses {above node : Handle} (lt : node < arena.size)
    (encloses : arena.outline.Encloses above node) : above < arena.size := by
  rcases Outline.encloses_iff_eq_or_isAncestor.mp encloses with rfl | ancestor
  · exact lt
  · obtain ⟨child, linked, _⟩ := Outline.isAncestor_iff_child.mp ancestor
    exact links.parent_lt linked

/-- Nothing lies below a node without children. -/
theorem HasLinks.not_encloses_of_childless {node other : Handle}
    (childless : arena.children node = []) (ne : other ≠ node) :
    ¬ arena.outline.Encloses node other := by
  intro encloses
  obtain ⟨child, linked, _⟩ :=
    Outline.isAncestor_iff_child.mp (encloses.isAncestor_of_ne fun same => ne same.symm)
  have isChild := links.mem_children_iff.mpr linked
  rw [childless] at isChild
  cases isChild

/-- Without cycles a chain of parents meets no node twice, so it has fewer links than there are nodes. -/
theorem HasLinks.links_lt_size (acyclic : arena.outline.IsAcyclic) {steps : Nat}
    {node above : Handle} (reaches : arena.outline.climb (steps + 1) node = some above) :
    steps + 1 < arena.size := by
  obtain ⟨up, linked, _⟩ := Outline.climb_succ_eq_some_iff.mp reaches
  have inside : ∀ other, arena.outline.Encloses other node → other ∈ List.range arena.size :=
    fun other encloses => List.mem_range.mpr
      (links.lt_of_encloses (arena.lt_size_of_parent_eq_some linked) encloses)
  have bound := acyclic.links_lt_length inside reaches
  rwa [List.length_range] at bound

/-- Without cycles the outline of an arena is a forest. -/
theorem HasLinks.isForest (acyclic : arena.outline.IsAcyclic) : arena.outline.IsForest where
  toIsLinked := links.isLinked
  links_le_size := by
    intro steps node above reaches
    cases steps with
    | zero => exact Nat.zero_le _
    | succ steps => exact Nat.le_of_lt (links.links_lt_size acyclic reaches)

/-- An arena without cycles that is no larger than a walk is long is shallow. -/
theorem HasLinks.isShallow_of_size_le (acyclic : arena.outline.IsAcyclic)
    (small : arena.size ≤ maxAncestorSteps) : arena.outline.IsShallow := by
  intro node
  cases reached : arena.outline.climb maxAncestorSteps node with
  | none => rfl
  | some above => exact absurd (links.links_lt_size acyclic reached) (Nat.not_lt_of_le small)

/-- Such an arena is shallow if every parent is older than its child. -/
theorem HasLinks.isShallow_of_older
    (older : ∀ node < arena.size, (arena.parent node).all (· < node))
    (small : arena.size ≤ maxAncestorSteps) : arena.outline.IsShallow := by
  refine links.isShallow_of_size_le (isAcyclic_of_parent_lt ?_) small
  intro node up linked
  have isOlder := older node (arena.lt_size_of_parent_eq_some linked)
  rw [linked] at isOlder
  exact of_decide_eq_true isOlder

/-- In a shallow arena bounded walks are exact. -/
theorem HasLinks.isShallowForest (shallow : arena.outline.IsShallow) :
    arena.outline.IsShallowForest where
  toIsForest := links.isForest shallow.isAcyclic
  shallow := shallow

end Forest

end ElementSearch.Arena
