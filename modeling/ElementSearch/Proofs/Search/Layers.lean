import ElementSearch.Proofs.Search.Walk

/-!
# The outer layer of a search

The nodes of a list that lie below no other one form its outer layer. In a shallow outline they never nest, every
node of the list lies in exactly one of them, and nothing is left out if and only if nothing nests. In a shallow
forest the outermost matches of a search are the outer layer of all its matches, so all of this holds of them:
`isOuterLayer_locate`.
-/

namespace ElementSearch

variable {Node : Type} [DecidableEq Node]

namespace Outline

/-- Whether `layer` is what is outermost in `nodes`: in the same order, the nodes above which there is none. -/
structure IsOuterLayer (outline : Outline Node) (nodes layer : List Node) : Prop where
  eq_filter : layer = nodes.filter (outline.isOutermostIn nodes)
  isOutermostIn_iff : ∀ node,
    outline.isOutermostIn nodes node ↔ ∀ other ∈ nodes, ¬ outline.IsAncestor other node
  subset : layer ⊆ nodes
  never_nests : ∀ first ∈ layer, ∀ second ∈ layer, ¬ outline.IsAncestor first second
  existsUnique_encloses : ∀ node ∈ nodes, ∃! outer, outer ∈ layer ∧ outline.Encloses outer node
  eq_iff : layer = nodes ↔
    ∀ first ∈ nodes, ∀ second ∈ nodes, ¬ outline.IsAncestor first second

variable {outline : Outline Node} (shallow : outline.IsShallow) {nodes : List Node}
include shallow

/-- The outer layer of a list holds the nodes that have no ancestor in the list. -/
theorem IsShallow.mem_filter_isOutermostIn_iff {node : Node} :
    node ∈ nodes.filter (outline.isOutermostIn nodes) ↔
      node ∈ nodes ∧ ∀ other ∈ nodes, ¬ outline.IsAncestor other node := by
  rw [List.mem_filter, shallow.isOutermostIn_iff]

/-- Of the nodes in which a node lies, one is outermost. -/
theorem IsShallow.existsUnique_isOutermostIn {node : Node} (member : node ∈ nodes) :
    ∃! outer, outer ∈ nodes.filter (outline.isOutermostIn nodes) ∧ outline.Encloses outer node := by
  obtain ⟨outer, isOuter, encloses⟩ := exists_outermost_encloses shallow member
  have top := (mem_outermost_iff shallow).mp isOuter
  refine ⟨outer, ⟨shallow.mem_filter_isOutermostIn_iff.mpr top, encloses⟩, ?_⟩
  rintro other ⟨isOther, otherEncloses⟩
  obtain ⟨otherMember, otherTop⟩ := shallow.mem_filter_isOutermostIn_iff.mp isOther
  by_contra ne
  rcases otherEncloses.total encloses with above | above
  · exact top.2 other otherMember (above.isAncestor_of_ne ne)
  · exact otherTop outer top.1 (above.isAncestor_of_ne fun same => ne same.symm)

/-- A list is its own outer layer exactly when none of its nodes is an ancestor of another. -/
theorem IsShallow.filter_isOutermostIn_eq_self_iff :
    nodes.filter (outline.isOutermostIn nodes) = nodes ↔
      ∀ first ∈ nodes, ∀ second ∈ nodes, ¬ outline.IsAncestor first second := by
  simp only [List.filter_eq_self, shallow.isOutermostIn_iff]
  exact ⟨fun top first isFirst second isSecond => top second isSecond first isFirst,
    fun apart second isSecond first isFirst => apart first isFirst second isSecond⟩

/-- Filtering a list for its outermost nodes gives its outer layer. -/
theorem IsShallow.isOuterLayer :
    outline.IsOuterLayer nodes (nodes.filter (outline.isOutermostIn nodes)) where
  eq_filter := rfl
  isOutermostIn_iff _ := shallow.isOutermostIn_iff
  subset := List.filter_sublist.subset
  never_nests first isFirst second isSecond := by
    have isMatch := (shallow.mem_filter_isOutermostIn_iff.mp isFirst).1
    exact (shallow.mem_filter_isOutermostIn_iff.mp isSecond).2 first isMatch
  existsUnique_encloses _ := shallow.existsUnique_isOutermostIn
  eq_iff := shallow.filter_isOutermostIn_eq_self_iff

end Outline

/-- The outermost matches of a search are the outer layer of all its matches. -/
theorem Rule.isOuterLayer_locate {host : Host Node} {rule : Rule} (forest : host.IsShallowForest)
    (scope : Node) :
    host.IsOuterLayer (rule.locate host .every scope) (rule.locate host .outermost scope) := by
  rw [locate_outermost forest]
  exact forest.shallow.isOuterLayer

end ElementSearch
