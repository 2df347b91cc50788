import ElementSearch.Proofs.Search.Outermost
import ElementSearch.Proofs.Tree.Forest
import ElementSearch.Search.Locate

/-!
# What a walk collects

A walk for every match is a filter of a subtree, whatever the outline looks like: `collect_every`. In a forest
a walk for the outermost matches is a filter of that filter: `collect_outermost`. Since the roots of a search
lie apart, the same holds of the matches of a whole search, in their order: `locate_outermost`.
-/

namespace ElementSearch

/-- Picking items and dropping repetitions can be done in either order. -/
theorem distinct_filter {α : Type} [DecidableEq α] (keep : α → Bool) (items : List α) :
    distinct (items.filter keep) = (distinct items).filter keep := by
  match items with
  | [] => rfl
  | item :: rest =>
    have others := distinct_filter keep (rest.filter (· ≠ item))
    rw [List.filter_comm] at others
    by_cases kept : keep item
    · rw [List.filter_cons_of_pos kept, distinct_cons, distinct_cons, List.filter_cons_of_pos kept,
        others]
    · have same : (rest.filter keep).filter (· ≠ item) = rest.filter keep := by
        refine List.filter_eq_self.mpr fun other member => decide_eq_true ?_
        rintro rfl
        exact kept (List.mem_filter.mp member).2
      rw [List.filter_cons_of_neg kept, distinct_cons, List.filter_cons_of_neg kept, ← others, same]
termination_by items.length
decreasing_by
  exact Nat.lt_succ_of_le (List.length_filter_le _ rest)

variable {Node : Type} [DecidableEq Node]

/-- Whether no other node of a list contains a node. -/
def Outline.isOutermostIn (outline : Outline Node) (nodes : List Node) (node : Node) : Bool :=
  nodes.all fun other => other = node || !outline.contains other node

/-- In a shallow outline, a node is outermost in a list when no other node there is its ancestor.
-/
theorem Outline.IsShallow.isOutermostIn_iff {outline : Outline Node}
    (shallow : outline.IsShallow) {nodes : List Node} {node : Node} :
    outline.isOutermostIn nodes node ↔ ∀ other ∈ nodes, ¬ outline.IsAncestor other node := by
  simp only [isOutermostIn, List.all_eq_true, Bool.or_eq_true, decide_eq_true_eq,
    Bool.not_eq_true', ← Bool.not_eq_true, shallow.contains_iff]
  refine forall₂_congr fun other _ => ?_
  constructor
  · rintro (rfl | outside) ancestor
    · exact shallow.isAcyclic _ ancestor
    · exact outside ancestor.encloses
  · intro notAbove
    by_cases same : other = node
    · exact .inl same
    · exact .inr fun encloses => notAbove (encloses.isAncestor_of_ne same)

namespace Rule

variable {host : Host Node} {rule : Rule}

section EveryMatch

/-- Collecting every match filters the walk for the nodes where the rule holds. -/
theorem collectWithin_every (depth : Nat) (node : Node) :
    rule.collectWithin host .every (depth + 1) node =
      (node :: host.descendantsWithin depth node).filter (rule.holds host) := by
  induction depth generalizing node with
  | zero =>
    have nothing : (host.elementChildren node).flatMap (fun _ => ([] : List Node)) = [] :=
      List.flatMap_eq_nil_iff.mpr fun _ _ => rfl
    simp [collectWithin, Outline.descendantsWithin, List.filter_cons, nothing]
  | succ depth ih =>
    rw [collectWithin, Outline.descendantsWithin, List.filter_cons, List.filter_flatMap]
    simp only [reduceCtorEq, and_false, if_false]
    rw [List.flatMap_congr fun child _ => ih child]

/-- A walk for every match tests each node of the subtree. -/
theorem collect_every (node : Node) :
    rule.collect host .every node = (host.subtree node).filter (rule.holds host) :=
  collectWithin_every host.size node

/-- Below a root, every match of the subtree is collected and nothing else. -/
theorem mem_collect_every_iff {root node : Node} :
    node ∈ rule.collect host .every root ↔ node ∈ host.subtree root ∧ rule.holds host node := by
  rw [collect_every, List.mem_filter]

/-- Everything that is collected lies at or below the root. -/
theorem encloses_of_mem_collectWithin_every (forest : host.IsForest) {depth : Nat}
    {root node : Node} (member : node ∈ rule.collectWithin host .every depth root) :
    host.Encloses root node := by
  cases depth with
  | zero => simp [collectWithin] at member
  | succ depth =>
    rw [collectWithin_every] at member
    rcases List.mem_cons.mp (List.mem_of_mem_filter member) with rfl | below
    · exact .refl node
    · exact (forest.of_mem_descendantsWithin below).2.encloses

end EveryMatch

/-- In a forest the size of the outline is a bound that cuts no walk off: a deeper one collects no more. -/
theorem collectWithin_eq_collect (forest : host.IsForest) {traversal : Traversal} {depth : Nat}
    (le : host.size + 1 ≤ depth) (node : Node) :
    rule.collectWithin host traversal depth node = rule.collect host traversal node := by
  have stable : ∀ (bound depth : Nat) (node : Node), bound ≤ depth → host.IsLow bound node →
      rule.collectWithin host traversal depth node =
        rule.collectWithin host traversal bound node := by
    intro bound
    induction bound with
    | zero => exact fun depth node _ low => absurd low (Outline.not_isLow_zero node)
    | succ bound ih =>
      rintro (_ | depth) node le low
      · cases le
      · have same : (host.elementChildren node).flatMap (rule.collectWithin host traversal depth) =
            (host.elementChildren node).flatMap (rule.collectWithin host traversal bound) := by
          refine List.flatMap_congr fun child isChild => ?_
          have up := (forest.mem_elementChildren_iff.mp isChild).1
          exact ih depth child (Nat.le_of_succ_le_succ le) (low.of_parent up)
        simp only [collectWithin, same]
  exact stable (host.size + 1) depth node le (forest.isLow node)

section OutermostMatches

variable (forest : host.IsShallowForest)
include forest

/-- What lies under one child of a node is under nothing that lies under another child. -/
theorem isOutermostIn_flatMap {depth : Nat} {node child found : Node}
    (isChild : child ∈ host.elementChildren node)
    (member : found ∈ rule.collectWithin host .every depth child) :
    host.isOutermostIn
        ((host.elementChildren node).flatMap (rule.collectWithin host .every depth)) found =
      host.isOutermostIn (rule.collectWithin host .every depth child) found := by
  rw [Bool.eq_iff_iff, forest.shallow.isOutermostIn_iff, forest.shallow.isOutermostIn_iff]
  constructor
  · intro top other inside
    exact top other (List.mem_flatMap.mpr ⟨child, isChild, inside⟩)
  · intro top other inside ancestor
    obtain ⟨sibling, isSibling, below⟩ := List.mem_flatMap.mp inside
    have same : sibling = child := forest.isAcyclic.eq_of_siblings
      (forest.mem_elementChildren_iff.mp isSibling).1 (forest.mem_elementChildren_iff.mp isChild).1
      ((encloses_of_mem_collectWithin_every forest.toIsForest below).trans ancestor.encloses)
      (encloses_of_mem_collectWithin_every forest.toIsForest member)
    exact top other (same ▸ below) ancestor

/-- A match at the root of a walk is the only outermost one. -/
theorem filter_isOutermostIn_cons {depth : Nat} {node : Node} :
    (node :: (host.descendantsWithin depth node).filter (rule.holds host)).filter
        (host.isOutermostIn (node :: (host.descendantsWithin depth node).filter (rule.holds host))) =
      [node] := by
  have below : ∀ other ∈ (host.descendantsWithin depth node).filter (rule.holds host),
      host.IsAncestor node other := fun other member =>
    (forest.of_mem_descendantsWithin (List.mem_of_mem_filter member)).2
  rw [List.filter_cons_of_pos, List.filter_eq_nil_iff.mpr]
  · intro other member top
    exact forest.shallow.isOutermostIn_iff.mp top node List.mem_cons_self (below other member)
  · refine forest.shallow.isOutermostIn_iff.mpr fun other member ancestor => ?_
    rcases List.mem_cons.mp member with rfl | member
    · exact forest.isAcyclic other ancestor
    · exact forest.isAcyclic node ((below other member).trans_encloses ancestor.encloses)

/-- Collecting first matches leaves the outermost ones of all matches, in order. -/
theorem collectWithin_outermost (depth : Nat) (node : Node) :
    rule.collectWithin host .outermost depth node =
      (rule.collectWithin host .every depth node).filter
        (host.isOutermostIn (rule.collectWithin host .every depth node)) := by
  induction depth generalizing node with
  | zero => simp [collectWithin]
  | succ depth ih =>
    by_cases found : rule.holds host node
    · rw [collectWithin_every, List.filter_cons_of_pos found, filter_isOutermostIn_cons forest]
      simp [collectWithin, found]
    · have below : ∀ traversal, rule.collectWithin host traversal (depth + 1) node =
          (host.elementChildren node).flatMap (rule.collectWithin host traversal depth) := by
        intro traversal
        simp [collectWithin, found]
      rw [below, below, List.filter_flatMap]
      refine List.flatMap_congr fun child isChild => ?_
      rw [ih child]
      refine List.filter_congr fun inner member => ?_
      exact (isOutermostIn_flatMap forest isChild member).symm

/-- A walk for the outermost matches keeps those matches of the subtree that lie below no other. -/
theorem collect_outermost (node : Node) :
    rule.collect host .outermost node =
      (rule.collect host .every node).filter
        (host.isOutermostIn (rule.collect host .every node)) :=
  collectWithin_outermost forest (host.size + 1) node

end OutermostMatches

section Search

/-- A search finds what is collected from one of its roots. -/
theorem mem_locate_iff {traversal : Traversal} {scope node : Node} :
    node ∈ rule.locate host traversal scope ↔
      ∃ root ∈ rule.roots host scope, node ∈ rule.collect host traversal root := by
  rw [locate, mem_distinct, List.mem_flatMap]

/-- No search lists a node twice. -/
theorem nodup_locate (traversal : Traversal) (scope : Node) :
    (rule.locate host traversal scope).Nodup :=
  nodup_distinct _

/-- In a shallow outline, no two roots are below one another. -/
theorem pairwise_roots (shallow : host.IsShallow) (scope : Node) :
    (rule.roots host scope).Pairwise host.Apart := by
  unfold roots
  cases start? host scope with
  | none => exact .nil
  | some start => exact Outline.pairwise_outermost shallow _

/-- A match below another match of a search lies below a match from the same root. -/
theorem isOutermostIn_locate (forest : host.IsShallowForest) {scope root node : Node}
    (isRoot : root ∈ rule.roots host scope) (member : node ∈ rule.collect host .every root) :
    host.isOutermostIn (rule.collect host .every root) node =
      host.isOutermostIn (rule.locate host .every scope) node := by
  rw [Bool.eq_iff_iff, forest.shallow.isOutermostIn_iff, forest.shallow.isOutermostIn_iff]
  constructor
  · intro top other found ancestor
    obtain ⟨otherRoot, isOtherRoot, inside⟩ := mem_locate_iff.mp found
    have inRoot := forest.encloses_of_mem_subtree (mem_collect_every_iff.mp member).1
    have inOtherRoot := (forest.encloses_of_mem_subtree
      (mem_collect_every_iff.mp inside).1).trans ancestor.encloses
    have same := Outline.eq_of_encloses_of_pairwise (pairwise_roots forest.shallow scope)
      isOtherRoot isRoot inOtherRoot inRoot
    exact top other (same ▸ inside) ancestor
  · intro top other inside
    exact top other (mem_locate_iff.mpr ⟨root, isRoot, inside⟩)

/-- The outermost matches of a search are those of its matches that lie below no other one, in the same order. -/
theorem locate_outermost (forest : host.IsShallowForest) (scope : Node) :
    rule.locate host .outermost scope =
      (rule.locate host .every scope).filter
        (host.isOutermostIn (rule.locate host .every scope)) := by
  rw [locate, locate, ← distinct_filter, List.filter_flatMap, ← locate]
  refine congrArg distinct (List.flatMap_congr fun root isRoot => ?_)
  rw [collect_outermost forest]
  exact List.filter_congr fun node member => isOutermostIn_locate forest isRoot member

/-- The outermost matches of a search are its matches below no other match. -/
theorem mem_locate_outermost_iff (forest : host.IsShallowForest) {scope node : Node} :
    node ∈ rule.locate host .outermost scope ↔
      node ∈ rule.locate host .every scope ∧
        ∀ other ∈ rule.locate host .every scope, ¬ host.IsAncestor other node := by
  rw [locate_outermost forest, List.mem_filter, forest.shallow.isOutermostIn_iff]

end Search

end Rule

end ElementSearch
