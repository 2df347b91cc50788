import ElementSearch.Proofs.Arena.Lookup
import ElementSearch.Proofs.Search.Confinement
import ElementSearch.Proofs.Search.Layers
import ElementSearch.Proofs.Search.Reduction

/-!
# What searches of reachable arenas return

Where walks towards the root are long enough, the two kinds of search of an arena are related, both are confined to
their scope, and neither depends on the order of predicates, whatever the ids, tags and texts of the arena are. What is
kept of a list of handles is settled too, whether or not the arena has nodes under them.
Completeness is another matter: it needs ids that differ and tags in ASCII, while nothing of what is said here does.
-/

namespace ElementSearch.Arena

variable {arena : Arena}

/-- The outermost matches of a search are the outer layer of all its matches. -/
theorem Reachable.isOuterLayer_locateOutermost (reachable : arena.Reachable)
    (shallow : arena.outline.IsShallow) (rule : Rule) (scope : Handle) :
    arena.outline.IsOuterLayer (rule.locateEvery arena.host scope)
      (rule.locateOutermost arena.host scope) := by
  have forest : arena.host.IsShallowForest := reachable.hasLinks.isShallowForest shallow
  exact Rule.isOuterLayer_locate forest scope

section Layered

/-- A list with an item, and a paragraph with a text, below which another element was put. -/
def layered : Arena :=
  empty.after
    [.createDocument none, .addElement 0 "ul" [("class", "x")], .addElement 1 "li" [("class", "X y")],
      .addElement 1 "p" [], .addText 3 "text", .addElement 4 "b" [("class", "x")]]

theorem reachable_layered : layered.Reachable := ⟨_, rfl⟩

theorem isShallow_layered : layered.outline.IsShallow :=
  reachable_layered.hasLinks.isShallow_of_older (by decide) (by decide)

theorem isProperty_cl : IsProperty "cl" := by decide

/-- The rule that asks for a class with some text in it. No lookup answers it. -/
def classedLike : Rule :=
  ⟨[⟨"cl", "~x", isProperty_cl⟩]⟩

/-- The item is a match below another one, so one outermost match encloses it, and the searches differ. -/
theorem isOuterLayer_layered :
    (∃! outer, outer ∈ classedLike.locateOutermost layered.host 0 ∧ layered.outline.Encloses outer 2) ∧
      classedLike.locateOutermost layered.host 0 ≠ classedLike.locateEvery layered.host 0 := by
  have layer := reachable_layered.isOuterLayer_locateOutermost isShallow_layered classedLike 0
  have list : 1 ∈ classedLike.locateEvery layered.host 0 := by decide
  have item : 2 ∈ classedLike.locateEvery layered.host 0 := by decide
  have up : layered.outline.parent 2 = some 1 := by decide
  refine ⟨layer.existsUnique_encloses 2 item, fun same => ?_⟩
  exact layer.eq_iff.mp same 1 list 2 item (Outline.isAncestor_of_parent up)

end Layered

/-- Both kinds of search are confined to their scope. -/
theorem Reachable.isConfined_locate (reachable : arena.Reachable)
    (shallow : arena.outline.IsShallow) (rule : Rule) (scope : Handle) :
    rule.IsConfined arena.host scope := by
  have forest : arena.host.IsShallowForest := reachable.hasLinks.isShallowForest shallow
  exact Rule.isConfined forest rule scope

/-- The rule that asks for a class, which is looked up. -/
def classed : Rule :=
  ⟨[⟨"cl", "x", isProperty_cl⟩]⟩

/-- The element below the text is found in the paragraph: it lies there, and in the same document. -/
theorem isConfined_layered :
    (∃ start, Rule.start? layered.host 3 = some start ∧ layered.outline.Encloses start 5) ∧
      layered.outline.documentOf 5 = layered.outline.documentOf 3 ∧
      (∃! root, root ∈ classed.roots layered.host 3 ∧ layered.outline.Encloses root 5) := by
  have confined := reachable_layered.isConfined_locate isShallow_layered classed 3
  have found : 5 ∈ classed.locate layered.host .every 3 := by decide +kernel
  exact ⟨confined.start_encloses .every 5 found, confined.documentOf_eq .every 5 found,
    confined.existsUnique_root .every 5 found⟩

/-- The order of predicates does not matter, nor how often each of them occurs. -/
theorem findsSame_of_hasSamePredicates (shallow : arena.outline.IsShallow) {rule other : Rule}
    (same : rule.HasSamePredicates other) (scope : Handle) :
    rule.FindsSame arena.host scope other :=
  same.findsSame shallow scope

theorem isProperty_tag : IsProperty "tag" := by decide

/-- The predicate that asks for a tag. -/
def bold : Predicate :=
  ⟨"tag", "b", isProperty_tag⟩

/-- The rule that asks for a class and then for a tag. -/
def classedBold : Rule :=
  ⟨classed.predicates ++ [bold]⟩

/-- A rule that asks for the tag twice and for the class in between. -/
def boldClassed : Rule :=
  ⟨bold :: classed.predicates ++ [bold]⟩

/-- Both rules find the element below the text in the paragraph. -/
theorem findsSame_layered :
    (boldClassed.roots layered.host 3).Perm (classedBold.roots layered.host 3) ∧
      5 ∈ boldClassed.locateEvery layered.host 3 := by
  have same : classedBold.HasSamePredicates boldClassed := by
    intro predicate
    simp [boldClassed, classedBold, or_comm]
  have finds := findsSame_of_hasSamePredicates isShallow_layered same 3
  have found : 5 ∈ classedBold.locateEvery layered.host 3 := by decide +kernel
  exact ⟨finds.roots, finds.locateEvery.mem_iff.mpr found⟩

/-- What is kept of a list of handles is its reduction, and which handles are kept does not depend on their order. -/
theorem outermost_exact (shallow : arena.outline.IsShallow) (handles : List Handle) :
    (∀ result, result = arena.outline.outermost handles ↔ arena.outline.IsReduction handles result) ∧
      ∀ others : List Handle, (∀ handle, handle ∈ others ↔ handle ∈ handles) →
        (arena.outline.outermost others).Perm (arena.outline.outermost handles) :=
  ⟨fun _ => Outline.eq_outermost_iff shallow, fun _ same => Outline.outermost_perm shallow same⟩

/-- The element below the text, a handle without a node, the item, the paragraph around the element, and the handle
without a node again. -/
def littered : List Handle :=
  [5, 9, 2, 3, 9]

/-- The paragraph takes the slot of the element in it; from the reversed list the same handles are kept. -/
theorem outermost_littered :
    layered.outline.IsReduction littered [3, 9, 2] ∧
      (layered.outline.outermost littered.reverse).Perm [3, 9, 2] := by
  have reduces := outermost_exact isShallow_layered littered
  have kept : [3, 9, 2] = layered.outline.outermost littered := by decide +kernel
  refine ⟨(reduces.1 _).mp kept, kept ▸ reduces.2 littered.reverse fun handle => ?_⟩
  exact List.mem_reverse

end ElementSearch.Arena
