import ElementSearch.Proofs.Search.Rearrangement

/-!
# The reducer in full

In a shallow outline the reducer keeps of a list the nodes above which the list has no other one, each of them once, in
the order in which the list first enters their subtrees. Nothing else is such a list: `eq_outermost_iff`. A node that
takes the slot of a node below it comes to stand earlier than it does in the list itself, so the rank by which results
are ordered is that of the first node inside, and not that of the node.
-/

namespace ElementSearch.Outline

variable {Node : Type} [DecidableEq Node]

/-- The position in a list of the first node that is `above` or lies below it; the length of the list if there is
none. -/
def firstInside (outline : Outline Node) (nodes : List Node) (above : Node) : Nat :=
  nodes.findIdx (outline.contains above)

/-- Whether `result` is what is to be kept of `nodes`, and what follows for the nodes kept and those that are not. -/
structure IsReduction (outline : Outline Node) (nodes result : List Node) : Prop where
  mem_iff : ∀ node, node ∈ result ↔ node ∈ nodes ∧ ∀ other ∈ nodes, ¬ outline.IsAncestor other node
  nodup : result.Nodup
  ordered : result.Pairwise fun first second =>
    outline.firstInside nodes first < outline.firstInside nodes second
  never_nests : ∀ first ∈ result, ∀ second ∈ result, outline.Encloses first second → first = second
  existsUnique_related : ∀ node ∈ nodes,
    ∃! outer, outer ∈ result ∧ (outline.Encloses outer node ∨ outline.Encloses node outer)

variable {outline : Outline Node} {nodes : List Node}

/-- There is a first node inside exactly when there is a node inside at all. -/
theorem firstInside_lt_length_iff {above : Node} :
    outline.firstInside nodes above < nodes.length ↔ ∃ node ∈ nodes, outline.contains above node = true :=
  List.findIdx_lt_length

/-- A node of the list is inside itself, so there is a first one. -/
theorem firstInside_lt_length_of_mem {node : Node} (member : node ∈ nodes) :
    outline.firstInside nodes node < nodes.length :=
  firstInside_lt_length_iff.mpr ⟨node, member, outline.contains_self node⟩

/-- Appending to a list does not move the first node inside. -/
theorem firstInside_append {above : Node} (rest : List Node)
    (inside : outline.firstInside nodes above < nodes.length) :
    outline.firstInside (nodes ++ rest) above = outline.firstInside nodes above := by
  unfold firstInside at *
  rw [List.findIdx_append, if_pos inside]

/-- Where no node of the list is inside, the first one comes after the list. -/
theorem length_le_firstInside_append {above : Node} (rest : List Node)
    (outside : ¬ outline.firstInside nodes above < nodes.length) :
    nodes.length ≤ outline.firstInside (nodes ++ rest) above := by
  unfold firstInside at *
  rw [List.findIdx_append, if_neg outside]
  exact Nat.le_add_left _ _

variable (shallow : outline.IsShallow)
include shallow

/-- A list enters an outer subtree no later than an inner one. -/
theorem firstInside_le_of_encloses {above below : Node} (encloses : outline.Encloses above below) :
    outline.firstInside nodes above ≤ outline.firstInside nodes below := by
  refine List.findIdx_le_findIdx fun node _ inside => ?_
  exact shallow.contains_iff.mpr (encloses.trans (shallow.contains_iff.mp inside))

/-- Absorbing a candidate keeps nodes in the order of a rank, if the candidate ranks no later than what it encloses, and
either after all that is kept or no earlier than something that it encloses or that encloses it. -/
theorem pairwise_rank_absorb {rank : Node → Nat} {candidate : Node} {kept : List Node}
    (ordered : kept.Pairwise fun first second => rank first < rank second)
    (below : ∀ node ∈ kept, outline.Encloses candidate node → rank candidate ≤ rank node)
    (place : (∀ node ∈ kept, rank node < rank candidate) ∨
      ∃ node ∈ kept, (outline.Encloses candidate node ∨ outline.Encloses node candidate) ∧
        rank node ≤ rank candidate) :
    (outline.absorb candidate kept).Pairwise fun first second => rank first < rank second := by
  induction kept with
  | nil => exact List.pairwise_singleton _ _
  | cons first others ih =>
    obtain ⟨fromFirst, orderedOthers⟩ := List.pairwise_cons.mp ordered
    unfold absorb
    split
    · next inside =>
      have early := below first List.mem_cons_self (shallow.contains_iff.mp inside)
      refine List.pairwise_cons.mpr ⟨fun other member => ?_, orderedOthers.filter _⟩
      exact Nat.lt_of_le_of_lt early (fromFirst other (List.mem_of_mem_filter member))
    · next notInside =>
      split
      · exact ordered
      · next notAround =>
        rw [shallow.contains_iff] at notInside notAround
        -- the node that places the candidate is not `first`, so `first` ranks before it
        have placed : rank first < rank candidate ∧ ((∀ node ∈ others, rank node < rank candidate) ∨
            ∃ node ∈ others, (outline.Encloses candidate node ∨ outline.Encloses node candidate) ∧
              rank node ≤ rank candidate) := by
          rcases place with last | ⟨node, member, related, early⟩
          · exact ⟨last first List.mem_cons_self, .inl fun node isOther => last node (.tail _ isOther)⟩
          · rcases List.mem_cons.mp member with rfl | isOther
            · exact absurd related (not_or.mpr ⟨notInside, notAround⟩)
            · exact ⟨Nat.lt_of_lt_of_le (fromFirst node isOther) early, .inr ⟨node, isOther, related, early⟩⟩
        refine List.pairwise_cons.mpr ⟨fun other member => ?_, ih orderedOthers ?_ placed.2⟩
        · rcases mem_of_mem_absorb member with rfl | isOther
          · exact placed.1
          · exact fromFirst other isOther
        · exact fun node isOther => below node (.tail _ isOther)

/-- Where a list has a node inside a candidate, it has kept a node that encloses the candidate or lies in it, and
entered that node's subtree no later. -/
theorem exists_related_of_firstInside_lt {candidate : Node}
    (enters : outline.firstInside nodes candidate < nodes.length) :
    ∃ outer ∈ outline.outermost nodes,
      (outline.Encloses candidate outer ∨ outline.Encloses outer candidate) ∧
        outline.firstInside nodes outer ≤ outline.firstInside nodes candidate := by
  have inside : outline.contains candidate nodes[outline.firstInside nodes candidate] = true :=
    List.findIdx_getElem
  obtain ⟨outer, isOuter, encloses⟩ :=
    exists_outermost_encloses shallow (List.getElem_mem enters)
  refine ⟨outer, isOuter, (shallow.contains_iff.mp inside).total encloses, ?_⟩
  by_contra later
  have outside := List.not_of_lt_findIdx (Nat.lt_of_not_le later)
  exact Bool.eq_false_iff.mp outside (shallow.contains_iff.mpr encloses)

/-- The outermost nodes of a list stand in the order in which the list enters their subtrees. -/
theorem pairwise_firstInside_outermost (nodes : List Node) :
    (outline.outermost nodes).Pairwise fun first second =>
      outline.firstInside nodes first < outline.firstInside nodes second := by
  induction nodes using List.reverseRecOn with
  | nil => exact .nil
  | append_singleton nodes candidate ih =>
    have unmoved : ∀ node ∈ outline.outermost nodes,
        outline.firstInside (nodes ++ [candidate]) node = outline.firstInside nodes node :=
      fun node kept => firstInside_append _ (firstInside_lt_length_of_mem (mem_of_mem_outermost kept))
    rw [outermost_append]
    refine pairwise_rank_absorb shallow ?_ (fun node _ => firstInside_le_of_encloses shallow) ?_
    · refine ih.imp_of_mem fun isFirst isSecond earlier => ?_
      rwa [unmoved _ isFirst, unmoved _ isSecond]
    · by_cases enters : outline.firstInside nodes candidate < nodes.length
      · obtain ⟨outer, isOuter, related, early⟩ := exists_related_of_firstInside_lt shallow enters
        refine .inr ⟨outer, isOuter, related, ?_⟩
        rwa [unmoved outer isOuter, firstInside_append _ enters]
      · refine .inl fun node kept => ?_
        have before : outline.firstInside nodes node < nodes.length :=
          firstInside_lt_length_of_mem (mem_of_mem_outermost kept)
        rw [unmoved node kept]
        exact Nat.lt_of_lt_of_le before (length_le_firstInside_append _ enters)

/-- A node of a list is related to one of the outermost nodes only, which is the one that it lies in. -/
theorem existsUnique_related_outermost {node : Node} (member : node ∈ nodes) :
    ∃! outer, outer ∈ outline.outermost nodes ∧
      (outline.Encloses outer node ∨ outline.Encloses node outer) := by
  obtain ⟨outer, isOuter, encloses⟩ := exists_outermost_encloses shallow member
  refine ⟨outer, ⟨isOuter, .inl encloses⟩, ?_⟩
  rintro other ⟨isOther, related⟩
  have apart := pairwise_outermost shallow nodes
  rcases related with above | below
  · exact eq_of_encloses_of_pairwise apart isOther isOuter above encloses
  · exact eq_of_encloses_of_pairwise apart isOther isOuter (.refl other) (encloses.trans below)

/-- The outermost nodes of a list are a reduction of it. -/
theorem isReduction_outermost (nodes : List Node) :
    outline.IsReduction nodes (outline.outermost nodes) where
  mem_iff _ := mem_outermost_iff shallow
  nodup := nodup_of_pairwise_apart (pairwise_outermost shallow nodes)
  ordered := pairwise_firstInside_outermost shallow nodes
  never_nests _ isFirst _ isSecond encloses :=
    eq_of_encloses_of_pairwise (pairwise_outermost shallow nodes) isFirst isSecond encloses (.refl _)
  existsUnique_related _ := existsUnique_related_outermost shallow

omit shallow in
/-- A list has one reduction only. -/
theorem IsReduction.unique {first second : List Node} (left : outline.IsReduction nodes first)
    (right : outline.IsReduction nodes second) : first = second := by
  have perm : first.Perm second := (List.perm_ext_iff_of_nodup left.nodup right.nodup).mpr
    fun node => (left.mem_iff node).trans (right.mem_iff node).symm
  refine perm.eq_of_pairwise (fun _ _ _ _ earlier later => ?_) left.ordered right.ordered
  exact absurd later (Nat.lt_asymm earlier)

/-- The reducer returns the reduction of a list. -/
theorem eq_outermost_iff {result : List Node} :
    result = outline.outermost nodes ↔ outline.IsReduction nodes result :=
  ⟨fun same => same ▸ isReduction_outermost shallow nodes,
    fun reduction => reduction.unique (isReduction_outermost shallow nodes)⟩

end ElementSearch.Outline
