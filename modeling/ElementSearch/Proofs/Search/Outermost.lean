import ElementSearch.Proofs.Tree.Lineage
import ElementSearch.Search.Outermost
import Mathlib.Data.List.Induction
import Mathlib.Data.List.Pairwise

/-!
# What the reducer keeps

In a shallow outline the outermost nodes of a list are those above which the list has no other node:
`mem_outermost_iff`. They lie apart from each other, and every node of the list lies in one of them. The
invariant of the fold is `pairwise_absorb`: nodes that lie apart still do after a candidate is absorbed.
-/

namespace ElementSearch.Outline

variable {Node : Type}

/-- Neither of two nodes encloses the other. -/
def Apart (outline : Outline Node) (first second : Node) : Prop :=
  ¬ outline.Encloses first second ∧ ¬ outline.Encloses second first

variable {outline : Outline Node}

instance : Std.Symm outline.Apart where
  symm _ _ apart := ⟨apart.2, apart.1⟩

/-- In a list of nodes that lie apart, none is above another. -/
theorem not_isAncestor_of_pairwise (acyclic : outline.IsAcyclic) {nodes : List Node}
    (apart : nodes.Pairwise outline.Apart) {above node : Node} (outer : above ∈ nodes)
    (inner : node ∈ nodes) : ¬ outline.IsAncestor above node := by
  intro ancestor
  by_cases same : above = node
  · exact acyclic node (same ▸ ancestor)
  · exact (apart.forall outer inner same).1 ancestor.encloses

/-- Of nodes that lie apart, at most one encloses a given node. -/
theorem eq_of_encloses_of_pairwise {nodes : List Node} (apart : nodes.Pairwise outline.Apart)
    {first second node : Node} (left : first ∈ nodes) (right : second ∈ nodes)
    (inFirst : outline.Encloses first node) (inSecond : outline.Encloses second node) :
    first = second := by
  by_contra ne
  have separate := apart.forall left right ne
  rcases inFirst.total inSecond with below | below
  · exact separate.1 below
  · exact separate.2 below

variable [DecidableEq Node]

/-- Absorbing a candidate adds nothing but the candidate. -/
theorem mem_of_mem_absorb {candidate node : Node} {kept : List Node}
    (member : node ∈ outline.absorb candidate kept) : node = candidate ∨ node ∈ kept := by
  induction kept with
  | nil => exact .inl (List.mem_singleton.mp member)
  | cons first others ih =>
    unfold absorb at member
    split at member
    · rcases List.mem_cons.mp member with rfl | other
      · exact .inl rfl
      · exact .inr (List.mem_cons_of_mem _ (List.mem_of_mem_filter other))
    · split at member
      · exact .inr member
      · rcases List.mem_cons.mp member with rfl | other
        · exact .inr List.mem_cons_self
        · exact (ih other).imp_right (List.mem_cons_of_mem first)

variable (shallow : outline.IsShallow)
include shallow

/-- Absorbing a candidate keeps nodes apart. -/
theorem pairwise_absorb {candidate : Node} {kept : List Node}
    (apart : kept.Pairwise outline.Apart) :
    (outline.absorb candidate kept).Pairwise outline.Apart := by
  induction kept with
  | nil => exact List.pairwise_singleton _ _
  | cons first others ih =>
    obtain ⟨fromFirst, apartOthers⟩ := List.pairwise_cons.mp apart
    unfold absorb
    split
    · next inside =>
      have candidateAbove := shallow.contains_iff.mp inside
      refine List.pairwise_cons.mpr ⟨fun other member => ?_, apartOthers.filter _⟩
      obtain ⟨isOther, outside⟩ := List.mem_filter.mp member
      rw [Bool.not_eq_true', ← Bool.not_eq_true, shallow.contains_iff] at outside
      -- a node above the candidate would be above `first` as well
      refine ⟨outside, fun above => ?_⟩
      exact (fromFirst other isOther).2 (above.trans candidateAbove)
    · next notInside =>
      split
      · exact apart
      · next notAround =>
        rw [shallow.contains_iff] at notInside notAround
        refine List.pairwise_cons.mpr ⟨fun other member => ?_, ih apartOthers⟩
        rcases mem_of_mem_absorb member with rfl | isOther
        · exact ⟨notAround, notInside⟩
        · exact fromFirst other isOther

/-- What absorbs a candidate encloses the candidate and all that was kept. -/
theorem exists_encloses_of_absorb {candidate node : Node} {kept : List Node}
    (member : node = candidate ∨ node ∈ kept) :
    ∃ outer ∈ outline.absorb candidate kept, outline.Encloses outer node := by
  induction kept with
  | nil =>
    rcases member with rfl | member
    · exact ⟨node, List.mem_singleton_self node, .refl node⟩
    · cases member
  | cons first others ih =>
    unfold absorb
    split
    · next inside =>
      -- the candidate drops what it encloses and keeps the rest
      by_cases enclosed : outline.Encloses candidate node
      · exact ⟨candidate, List.mem_cons_self, enclosed⟩
      · refine ⟨node, List.mem_cons_of_mem _ (List.mem_filter.mpr ⟨?_, ?_⟩), .refl node⟩
        · rcases member with rfl | member
          · exact absurd (.refl node) enclosed
          · rcases List.mem_cons.mp member with rfl | isOther
            · exact absurd (shallow.contains_iff.mp inside) enclosed
            · exact isOther
        · rw [Bool.not_eq_true', ← Bool.not_eq_true, shallow.contains_iff]
          exact enclosed
    · split
      · next around =>
        rcases member with rfl | member
        · exact ⟨first, List.mem_cons_self, shallow.contains_iff.mp around⟩
        · exact ⟨node, member, .refl node⟩
      · rcases member with same | member
        · obtain ⟨outer, kept, encloses⟩ := ih (.inl same)
          exact ⟨outer, List.mem_cons_of_mem _ kept, encloses⟩
        · rcases List.mem_cons.mp member with rfl | isOther
          · exact ⟨node, List.mem_cons_self, .refl node⟩
          · obtain ⟨outer, kept, encloses⟩ := ih (.inr isOther)
            exact ⟨outer, List.mem_cons_of_mem _ kept, encloses⟩

/-- The outermost nodes lie apart. -/
theorem pairwise_outermost (nodes : List Node) :
    (outline.outermost nodes).Pairwise outline.Apart := by
  induction nodes using List.reverseRecOn with
  | nil => exact .nil
  | append_singleton nodes candidate ih =>
    rw [outermost_append]
    exact pairwise_absorb shallow ih

omit shallow in
/-- The outermost nodes of a list are nodes of the list. -/
theorem mem_of_mem_outermost {nodes : List Node} {node : Node}
    (member : node ∈ outline.outermost nodes) : node ∈ nodes := by
  induction nodes using List.reverseRecOn with
  | nil => cases member
  | append_singleton nodes candidate ih =>
    rw [outermost_append] at member
    rcases mem_of_mem_absorb member with rfl | kept
    · exact List.mem_append_right _ (List.mem_singleton_self node)
    · exact List.mem_append_left _ (ih kept)

/-- Every node of a list lies in one of its outermost nodes. -/
theorem exists_outermost_encloses {nodes : List Node} {node : Node} (member : node ∈ nodes) :
    ∃ outer ∈ outline.outermost nodes, outline.Encloses outer node := by
  induction nodes using List.reverseRecOn with
  | nil => cases member
  | append_singleton nodes candidate ih =>
    rw [outermost_append]
    rcases List.mem_append.mp member with earlier | last
    · obtain ⟨middle, kept, encloses⟩ := ih earlier
      obtain ⟨outer, absorbed, further⟩ := exists_encloses_of_absorb shallow (.inr kept)
      exact ⟨outer, absorbed, further.trans encloses⟩
    · exact exists_encloses_of_absorb shallow (.inl (List.mem_singleton.mp last))

/-- The outermost nodes of a list are those above which the list has no node. -/
theorem mem_outermost_iff {nodes : List Node} {node : Node} :
    node ∈ outline.outermost nodes ↔
      node ∈ nodes ∧ ∀ other ∈ nodes, ¬ outline.IsAncestor other node := by
  have apart := pairwise_outermost shallow nodes
  constructor
  · intro kept
    refine ⟨mem_of_mem_outermost kept, fun other member ancestor => ?_⟩
    obtain ⟨outer, isOuter, encloses⟩ := exists_outermost_encloses shallow member
    exact not_isAncestor_of_pairwise shallow.isAcyclic apart isOuter kept
      (encloses.trans_isAncestor ancestor)
  · rintro ⟨member, top⟩
    obtain ⟨outer, isOuter, encloses⟩ := exists_outermost_encloses shallow member
    by_cases same : outer = node
    · exact same ▸ isOuter
    · exact absurd (encloses.isAncestor_of_ne same) (top outer (mem_of_mem_outermost isOuter))

end ElementSearch.Outline
