import ElementSearch.Proofs.Search.Coverage

/-!
# Searches are confined to their scope

Lookups may answer with nodes from anywhere. A candidate is kept only if the node from which the search starts
contains it, walks lead from a node to what it encloses, and the roots of the walks lie apart. So whatever a lookup
answers, a search stays in the subtree in which it starts, each match lies in one of its roots only, and it never leaves
the document. What is inside a subtree is told by parent links, so that what lies below a text counts as well.
-/

namespace ElementSearch

variable {Node : Type} [DecidableEq Node] {host : Host Node}

/-- A candidate lies in the subtree for which it is proposed, whatever was looked up. -/
theorem Predicate.encloses_of_mem_candidates {predicate : Predicate} {start candidate : Node}
    (member : candidate ∈ predicate.candidates host start) : host.Encloses start candidate := by
  cases found : predicate.hits? host start with
  | none =>
    simp only [candidates, found, List.mem_singleton] at member
    rw [member]
    exact .refl start
  | some hits =>
    rcases (mem_candidates_iff found).mp member with ⟨rfl, _⟩ | ⟨_, _, inside⟩
    · exact .refl candidate
    · obtain ⟨links, _, reaches⟩ := Outline.contains_iff.mp inside
      exact ⟨links, reaches⟩

namespace Rule

variable {rule : Rule}

/-- What holds of a search in a scope, however its nodes are found. -/
structure IsConfined (host : Host Node) (rule : Rule) (scope : Node) : Prop where
  roots_apart : (rule.roots host scope).Pairwise host.Apart
  start_encloses_root : ∀ root ∈ rule.roots host scope,
    ∃ start, start? host scope = some start ∧ host.Encloses start root
  holds : ∀ traversal, ∀ node ∈ rule.locate host traversal scope, rule.holds host node
  count_eq_one : ∀ traversal, ∀ node ∈ rule.locate host traversal scope,
    (rule.locate host traversal scope).count node = 1
  start_encloses : ∀ traversal, ∀ node ∈ rule.locate host traversal scope,
    ∃ start, start? host scope = some start ∧ host.Encloses start node
  documentOf_eq : ∀ traversal, ∀ node ∈ rule.locate host traversal scope,
    host.documentOf node = host.documentOf scope
  existsUnique_root : ∀ traversal, ∀ node ∈ rule.locate host traversal scope,
    ∃! root, root ∈ rule.roots host scope ∧ host.Encloses root node

/-- Every root of a rule lies at or below the start of its search. -/
theorem start_encloses_of_mem_roots {scope root : Node} (member : root ∈ rule.roots host scope) :
    ∃ start, start? host scope = some start ∧ host.Encloses start root := by
  unfold roots at member
  cases starts : start? host scope with
  | none => simp [starts] at member
  | some start =>
    rw [starts, Option.elim_some] at member
    obtain ⟨predicate, _, candidate⟩ := mem_candidates_of_mem_rootsFrom member
    exact ⟨start, rfl, Predicate.encloses_of_mem_candidates candidate⟩

omit [DecidableEq Node] in
/-- A search starts at its scope or, in a document, below it. -/
theorem encloses_of_start? (linked : host.IsLinked) {scope start : Node}
    (starts : start? host scope = some start) : host.Encloses scope start := by
  unfold start? at starts
  split at starts
  · have child := List.mem_of_mem_head? starts
    exact (Outline.isAncestor_of_parent (linked.mem_elementChildren_iff.mp child).1).encloses
  · exact Option.some.inj starts ▸ .refl scope

section Forest

variable (forest : host.IsShallowForest)
include forest

/-- A walk for the outermost matches collects no more than one for every match. -/
theorem mem_collect_every_of_mem_collect {traversal : Traversal} {root node : Node}
    (member : node ∈ rule.collect host traversal root) : node ∈ rule.collect host .every root := by
  cases traversal with
  | every => exact member
  | outermost =>
    rw [collect_outermost forest] at member
    exact List.mem_of_mem_filter member

/-- A match of a search lies in a root, and the rule holds at it. -/
theorem exists_root_of_mem_locate {traversal : Traversal} {scope node : Node}
    (member : node ∈ rule.locate host traversal scope) :
    rule.holds host node ∧ ∃ root ∈ rule.roots host scope, host.Encloses root node := by
  obtain ⟨root, isRoot, collected⟩ := mem_locate_iff.mp member
  obtain ⟨inside, holds⟩ :=
    mem_collect_every_iff.mp (mem_collect_every_of_mem_collect forest collected)
  exact ⟨holds, root, isRoot, forest.encloses_of_mem_subtree inside⟩

/-- Everything a search finds lies at or below its start. -/
theorem start_encloses_of_mem_locate {traversal : Traversal} {scope node : Node}
    (member : node ∈ rule.locate host traversal scope) :
    ∃ start, start? host scope = some start ∧ host.Encloses start node := by
  obtain ⟨_, root, isRoot, inRoot⟩ := exists_root_of_mem_locate forest member
  obtain ⟨start, starts, rootInside⟩ := start_encloses_of_mem_roots isRoot
  exact ⟨start, starts, rootInside.trans inRoot⟩

/-- Searches are confined, whatever the host looks up. -/
theorem isConfined (rule : Rule) (scope : Node) : rule.IsConfined host scope where
  roots_apart := pairwise_roots forest.shallow scope
  start_encloses_root _ := start_encloses_of_mem_roots
  holds _ _ member := (exists_root_of_mem_locate forest member).1
  count_eq_one traversal _ member := List.count_eq_one_of_mem (nodup_locate traversal scope) member
  start_encloses _ _ := start_encloses_of_mem_locate forest
  documentOf_eq traversal node member := by
    obtain ⟨start, starts, inside⟩ := start_encloses_of_mem_locate forest member
    have inScope := (encloses_of_start? forest.toIsLinked starts).trans inside
    exact (forest.documentOf_eq_of_encloses forest.shallow inScope).symm
  existsUnique_root traversal node member := by
    obtain ⟨_, root, isRoot, inRoot⟩ := exists_root_of_mem_locate forest member
    refine ⟨root, ⟨isRoot, inRoot⟩, fun other both => ?_⟩
    exact Outline.eq_of_encloses_of_pairwise (pairwise_roots forest.shallow scope)
      both.1 isRoot both.2 inRoot

end Forest

end Rule

end ElementSearch
