import ElementSearch.Proofs.Arena.Scans
import ElementSearch.Proofs.Arena.Searches
import ElementSearch.Proofs.Search.Ordering

/-!
# Results in document order

In a reachable arena the lookups for a class and for a tag answer in document order, and that for an id answers with one
node. So a rule of one predicate has its candidates in document order, and with them all that a search returns. A rule
with a predicate for which there is no lookup is searched from its start only, in document order as well:
`Reachable.ascendsIn_searches`. Several lookups are another matter, since what they find is not merged.
-/

namespace ElementSearch.Arena

variable {arena : Arena}

section Lookups

variable (links : arena.HasLinks) (filed : arena.IsFiled) (shallow : arena.outline.IsShallow)
  (leaves : arena.outline.HasLeafTexts)
include links filed shallow leaves

/-- What an arena looks up is found in document order. -/
theorem looksUpInOrder (predicate : Predicate) (start : Handle) :
    predicate.LooksUpInOrder arena.host start := by
  intro hits found
  have elements := looksUpElements filed links.isLinked predicate start hits found
  obtain ⟨_, ⟨_, document, _, rfl⟩ | ⟨_, rfl⟩ | ⟨_, rfl⟩⟩ := hits?_cases found
  · cases answer : arena.elementById document predicate.value with
    | none => exact List.nil_sublist _
    | some node =>
      rw [answer] at elements
      have element := elements node (List.mem_singleton_self node)
      rw [Option.toList_some, List.filter_cons]
      split
      · next inside =>
        exact List.singleton_sublist.mpr
          ((contains_iff_mem_descendants links shallow leaves element).mp inside)
      · exact List.nil_sublist _
  · rw [elementsByClassName_eq_scan links filed shallow leaves]
    exact List.filter_sublist.trans List.filter_sublist
  · exact List.filter_sublist.trans List.filter_sublist

/-- The roots of a search for one predicate, or for one among others that is not looked up, are in document order. -/
theorem roots_sublist_subtree {rule : Rule}
    (ordered : rule.predicates.length = 1 ∨
      ∃ predicate ∈ rule.predicates, predicate.isWildcard ∨ predicate.kind.isIndexable = false)
    (scope : Handle) : (rule.roots arena.host scope).Sublist (arena.outline.subtree scope) := by
  have forest : arena.host.IsShallowForest := links.isShallowForest shallow
  unfold Rule.roots
  cases starts : Rule.start? arena.host scope with
  | none => exact List.nil_sublist _
  | some start =>
    refine List.Sublist.trans ?_ (Rule.subtree_start_sublist forest.toIsForest starts)
    rcases ordered with one | ⟨predicate, isPredicate, scans⟩
    · obtain ⟨predicate, single⟩ := List.length_eq_one_iff.mp one
      exact Rule.rootsFrom_sublist_of_single forest single
        (Predicate.candidates_sublist_subtree (looksUpInOrder links filed shallow leaves _ start))
    · rw [Option.elim_some, Rule.rootsFrom_eq_of_candidates forest isPredicate
        (Predicate.candidates_of_not_indexable scans)]
      exact List.singleton_sublist.mpr List.mem_cons_self

end Lookups

/-- What a search for one predicate, or for one among others that is not looked up, returns is in document order,
however the arena came about. -/
theorem Reachable.ascendsIn_searches (reachable : arena.Reachable)
    (shallow : arena.outline.IsShallow) (leaves : arena.outline.HasLeafTexts) {rule : Rule}
    (ordered : rule.predicates.length = 1 ∨
      ∃ predicate ∈ rule.predicates, predicate.isWildcard ∨ predicate.kind.isIndexable = false)
    (scope : Handle) :
    arena.outline.AscendsIn scope (rule.roots arena.host scope) ∧
      arena.outline.AscendsIn scope (rule.locateOutermost arena.host scope) ∧
      arena.outline.AscendsIn scope (rule.locateEvery arena.host scope) := by
  have forest : arena.host.IsShallowForest := reachable.hasLinks.isShallowForest shallow
  have ascends := Rule.ascendsIn_locate forest
    (roots_sublist_subtree reachable.hasLinks reachable.isFiled shallow leaves ordered scope)
  exact ⟨ascends.1, ascends.2 .outermost, ascends.2 .every⟩

/-- The rule that asks for the items of a list. -/
def items : Rule :=
  ⟨[⟨"tag", "LI", isProperty_tag⟩]⟩

/-- The item that was made first was moved behind the other one, and so it comes last. -/
theorem ascendsIn_shuffled :
    items.locateEvery shuffled.host 0 = [3, 1] ∧ shuffled.outline.AscendsIn 0 [3, 1] := by
  have found : items.locateEvery shuffled.host 0 = [3, 1] := by decide +kernel
  have single : items.predicates.length = 1 := rfl
  have ascends := reachable_shuffled.ascendsIn_searches isShallow_shuffled hasLeafTexts_shuffled
    (.inl single) 0
  exact ⟨found, found ▸ ascends.2.2⟩

end ElementSearch.Arena
