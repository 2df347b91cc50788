import ElementSearch.Proofs.Arena.Searches
import ElementSearch.Proofs.Arena.Spared
import ElementSearch.Proofs.Snapshot.Layout

/-!
# Building beside other documents

A build performs its operations on nodes of its own, whether it is finished or stopped by a base URL. So it spares the
nodes that were there before (`growsBeside_buildInto`), although their ids and classes share the indexes with those of
the new page. Searches that start at an old node return what they returned before (`isUndisturbed_buildInto`).
-/

namespace ElementSearch.Snapshot

open Arena

/-- Whether an arena has changed without its old nodes or the searches among them noticing. The record of a node holds
its parent, its children and its content: its kind, what is known about it as an element, the document inside it, and
the frame around it. -/
structure IsUndisturbed (before after : Arena) : Prop where
  record? : ∀ node < before.size, after.record? node = before.record? node
  roots : ∀ (rule : Rule), ∀ scope < before.size,
    rule.roots after.host scope = rule.roots before.host scope
  locateOutermost : ∀ (rule : Rule), ∀ scope < before.size,
    rule.locateOutermost after.host scope = rule.locateOutermost before.host scope
  locateEvery : ∀ (rule : Rule), ∀ scope < before.size,
    rule.locateEvery after.host scope = rule.locateEvery before.host scope

section Isolation

variable {arena : Arena}

/-- Building a page, finished or not, disturbs nothing that was there. -/
theorem isUndisturbed_buildInto (reachable : arena.Reachable) (shallow : arena.outline.IsShallow)
    (snapshot : Snapshot) : IsUndisturbed arena (snapshot.buildInto arena).1 := by
  have beside := growsBeside_buildInto snapshot arena
  have spares := beside.spares
  have links := reachable.hasLinks
  have builtLinks := beside.grows.preserves HasLinks.grow links
  have forest := (links.isShallowForest shallow).toIsForest
  have agrees := spares.agreesOn links builtLinks reachable.isFiled forest
  exact ⟨spares.record?, fun rule _ old => agrees.roots rule old,
    fun rule _ => spares.locate links builtLinks reachable.isFiled forest rule .outermost,
    fun rule _ => spares.locate links builtLinks reachable.isFiled forest rule .every⟩

/-- A page whose items have the class of the list, and which cannot be built to its end. -/
def unfinished : Snapshot :=
  .mk none (.mk ⟨"ol", [("class", "x")], none, none, none⟩
    [.element (.mk ⟨"li", [("class", "X")], none, none, none⟩ []
      (some (.mk (some "no url") (.mk ⟨"html", [], none, none, none⟩ [] none))))]
    none)

/-- The elements of the unfinished page are filed under the class that is looked up, and not found. -/
theorem isUndisturbed_unfinished :
    (unfinished.buildInto layered).2.toOption = none ∧
      (unfinished.buildInto layered).1.classes.nodes "x" = [1, 2, 5, 7, 8] ∧
      classed.locateEvery (unfinished.buildInto layered).1.host 3 = [5] := by
  have undisturbed := isUndisturbed_buildInto reachable_layered isShallow_layered unfinished
  have found : classed.locateEvery layered.host 3 = [5] := by decide +kernel
  refine ⟨by decide +kernel, by decide +kernel, ?_⟩
  exact (undisturbed.locateEvery classed 3 (by decide)).trans found

end Isolation

end ElementSearch.Snapshot
