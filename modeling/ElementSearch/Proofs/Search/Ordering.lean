import ElementSearch.Proofs.Search.Confinement
import ElementSearch.Proofs.Search.Rearrangement
import ElementSearch.Proofs.Tree.Subtrees

/-!
# The order of what a search returns

The reducer takes candidates one by one, and one that comes in document order never takes the place of an earlier one.
So candidates in document order are reduced to roots in document order, and the walks from these return matches in
document order: `Rule.ascendsIn_locate`. The candidates of one predicate are in order if its lookup answers in order.
Those of several predicates need not be, unless one of them has no lookup: then the only root is the node where the
search starts.
-/

namespace ElementSearch

variable {Node : Type} [DecidableEq Node]

namespace Outline

/-- Whether nodes lie in a subtree, and each of them comes behind the ones before it in the preorder of the subtree. -/
structure AscendsIn (outline : Outline Node) (scope : Node) (nodes : List Node) : Prop where
  subset : nodes ⊆ outline.subtree scope
  ascending : nodes.Pairwise fun first second =>
    (outline.subtree scope).idxOf first < (outline.subtree scope).idxOf second

variable {outline : Outline Node}

/-- A sublist of a subtree in preorder ascends in it. -/
theorem IsForest.ascendsIn_of_sublist (forest : outline.IsForest) {scope : Node} {nodes : List Node}
    (inside : nodes.Sublist (outline.subtree scope)) : outline.AscendsIn scope nodes where
  subset := inside.subset
  ascending := by
    have nodup := forest.nodup_subtree scope
    refine List.Pairwise.sublist inside (List.pairwise_iff_getElem.mpr ?_)
    intro first second firstLt secondLt lt
    rwa [nodup.idxOf_getElem, nodup.idxOf_getElem]

/-- A candidate that contains nothing of what was kept comes last, if it is kept at all. -/
theorem absorb_sublist {candidate : Node} {kept : List Node}
    (outside : ∀ node ∈ kept, ¬ outline.contains candidate node) :
    (outline.absorb candidate kept).Sublist (kept ++ [candidate]) := by
  induction kept with
  | nil => exact .refl _
  | cons first others ih =>
    unfold absorb
    rw [if_neg (outside first List.mem_cons_self)]
    split
    · exact List.sublist_append_left _ _
    · exact (ih fun node member => outside node (List.mem_cons_of_mem _ member)).cons_cons _

/-- Where no node contains an earlier one, the outermost nodes keep their order. -/
theorem outermost_sublist {nodes : List Node}
    (ordered : nodes.Pairwise fun earlier later => ¬ outline.contains later earlier) :
    (outline.outermost nodes).Sublist nodes := by
  induction nodes using List.reverseRecOn with
  | nil => exact .refl _
  | append_singleton nodes candidate ih =>
    obtain ⟨before, _, last⟩ := List.pairwise_append.mp ordered
    rw [outermost_append]
    refine (absorb_sublist fun node kept => ?_).trans ((ih before).append_right _)
    exact last node (mem_of_mem_outermost kept) candidate (List.mem_singleton_self _)

/-- Nodes in the order of a subtree are reduced to roots in that order. -/
theorem IsShallowForest.outermost_sublist_subtree (forest : outline.IsShallowForest) {scope : Node}
    {nodes : List Node} (inside : nodes.Sublist (outline.subtree scope)) :
    (outline.outermost nodes).Sublist (outline.subtree scope) := by
  refine (outermost_sublist ?_).trans inside
  simp only [forest.shallow.contains_iff]
  exact (forest.pairwise_subtree scope).sublist inside

end Outline

namespace Predicate

/-- What a lookup for a predicate, if there is one, finds below a node is in document order. -/
def LooksUpInOrder (host : Host Node) (predicate : Predicate) (start : Node) : Prop :=
  ∀ hits, predicate.hits? host start = some hits →
    (hits.filter fun hit => hit ≠ start && host.contains start hit).Sublist (host.descendants start)

variable {host : Host Node} {predicate : Predicate}

/-- A predicate that no index answers has the start as its one candidate. -/
theorem candidates_of_not_indexable {start : Node}
    (scans : predicate.isWildcard ∨ predicate.kind.isIndexable = false) :
    predicate.candidates host start = [start] := by
  have none : predicate.hits? host start = none := by
    unfold hits?
    rcases scans with wildcard | other
    · rw [if_pos wildcard]
    · split
      · rfl
      · cases kind : predicate.kind <;> simp_all [PredicateKind.isIndexable]
  rw [candidates, none]

/-- The candidates of a predicate are in document order if what is looked up is. -/
theorem candidates_sublist_subtree {start : Node} (inOrder : predicate.LooksUpInOrder host start) :
    (predicate.candidates host start).Sublist (host.subtree start) := by
  unfold candidates
  cases found : predicate.hits? host start with
  | none => exact List.singleton_sublist.mpr List.mem_cons_self
  | some hits =>
    have border : (if predicate.passesAtBorder host start then [start] else []).Sublist [start] := by
      split
      · exact .refl _
      · exact List.nil_sublist _
    exact border.append (inOrder hits found)

end Predicate

namespace Rule

variable {host : Host Node} {rule : Rule}

section Roots

variable (forest : host.IsShallowForest) {start : Node}
include forest

/-- One predicate without a lookup is enough to start from nowhere but the start. -/
theorem rootsFrom_eq_of_candidates {predicate : Predicate} (isPredicate : predicate ∈ rule.predicates)
    (scans : predicate.candidates host start = [start]) : rule.rootsFrom host start = [start] := by
  have starts : start ∈ distinct (rule.predicates.flatMap fun other => other.candidates host start) :=
    mem_distinct.mpr (List.mem_flatMap.mpr ⟨predicate, isPredicate, by simp [scans]⟩)
  have only : ∀ node, node ∈ rule.rootsFrom host start ↔ node ∈ [start] := by
    intro node
    rw [rootsFrom, Outline.mem_outermost_iff forest.shallow, List.mem_singleton]
    constructor
    · rintro ⟨member, top⟩
      obtain ⟨proposer, _, candidate⟩ := List.mem_flatMap.mp (mem_distinct.mp member)
      by_contra ne
      have inside := Predicate.encloses_of_mem_candidates candidate
      exact top start starts (inside.isAncestor_of_ne (Ne.symm ne))
    · rintro rfl
      refine ⟨starts, fun other member ancestor => ?_⟩
      obtain ⟨proposer, _, candidate⟩ := List.mem_flatMap.mp (mem_distinct.mp member)
      have inside := Predicate.encloses_of_mem_candidates candidate
      exact forest.isAcyclic _ (inside.trans_isAncestor ancestor)
  have nodup : (rule.rootsFrom host start).Nodup :=
    Outline.nodup_of_pairwise_apart (Outline.pairwise_outermost forest.shallow _)
  exact List.perm_singleton.mp
    ((List.perm_ext_iff_of_nodup nodup (List.nodup_singleton start)).mpr only)

/-- The roots for one predicate are in document order if its candidates are. -/
theorem rootsFrom_sublist_of_single {predicate : Predicate} (single : rule.predicates = [predicate])
    (inOrder : (predicate.candidates host start).Sublist (host.subtree start)) :
    (rule.rootsFrom host start).Sublist (host.subtree start) := by
  have nodup : (predicate.candidates host start).Nodup := (forest.nodup_subtree start).sublist inOrder
  rw [rootsFrom, single, List.flatMap_singleton, distinct_eq_self nodup]
  exact forest.outermost_sublist_subtree inOrder

end Roots

omit [DecidableEq Node] in
/-- The subtree in which a search goes on is part of that of its scope. -/
theorem subtree_start_sublist (forest : host.IsForest) {scope start : Node}
    (starts : start? host scope = some start) :
    (host.subtree start).Sublist (host.subtree scope) := by
  unfold start? at starts
  split at starts
  · have child : start ∈ host.elementChildren scope := List.mem_of_mem_head? starts
    have inside : start ∈ host.subtree scope := by
      rw [forest.subtree_eq_cons_flatMap]
      exact List.mem_cons_of_mem _ (List.mem_flatMap.mpr ⟨start, child, List.mem_cons_self⟩)
    have whole := forest.flatMap_subtree_sublist (List.singleton_sublist.mpr inside)
      (List.pairwise_singleton _ _)
    rwa [List.flatMap_singleton] at whole
  · cases starts
    exact .refl _

variable (forest : host.IsShallowForest) {scope : Node}
include forest

/-- The matches of a search from roots in document order are in document order. -/
theorem locate_sublist_subtree (inOrder : (rule.roots host scope).Sublist (host.subtree scope))
    (traversal : Traversal) : (rule.locate host traversal scope).Sublist (host.subtree scope) := by
  have every : (rule.locate host .every scope).Sublist (host.subtree scope) := by
    have collected : (rule.roots host scope).flatMap (rule.collect host .every) =
        ((rule.roots host scope).flatMap host.subtree).filter (rule.holds host) := by
      rw [List.filter_flatMap]
      exact List.flatMap_congr fun root _ => collect_every root
    have inside : ((rule.roots host scope).flatMap (rule.collect host .every)).Sublist
        (host.subtree scope) := by
      rw [collected]
      exact List.filter_sublist.trans
        (forest.flatMap_subtree_sublist inOrder (pairwise_roots forest.shallow scope))
    rwa [locate, distinct_eq_self ((forest.nodup_subtree scope).sublist inside)]
  cases traversal with
  | every => exact every
  | outermost =>
    rw [locate_outermost forest]
    exact List.filter_sublist.trans every

/-- A search from roots in document order returns them and its matches in document order. -/
theorem ascendsIn_locate (inOrder : (rule.roots host scope).Sublist (host.subtree scope)) :
    host.AscendsIn scope (rule.roots host scope) ∧
      ∀ traversal, host.AscendsIn scope (rule.locate host traversal scope) :=
  ⟨forest.ascendsIn_of_sublist inOrder, fun traversal =>
    forest.ascendsIn_of_sublist (locate_sublist_subtree forest inOrder traversal)⟩

end Rule

end ElementSearch
