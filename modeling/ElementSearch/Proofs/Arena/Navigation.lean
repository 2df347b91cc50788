import ElementSearch.Proofs.Arena.Cycles
import ElementSearch.Proofs.Tree.Navigation

/-!
# Whether one node lies below another one

This can be asked in three ways: of the walk down from the upper node, of the walk up to the elements above the lower one,
and of `contains`, which follows every parent. In a shallow arena the two walks through elements agree, and `contains`
says the same unless a text lies between: `Reachable.navigatesAlike`. Nothing keeps texts from having children.

In deeper arenas both walks up are given up after the same number of steps, but `contains` counts the node that it starts
from. So along a chain of elements they disagree about one node, the one that lies `maxAncestorSteps` links up, and about
no other: `countsOneShort`.
-/

namespace ElementSearch.Arena

variable {arena : Arena} {above node : Handle}

section Shallow

/-- How the three walks between two nodes are related. -/
structure NavigatesAlike (arena : Arena) (above node : Handle) : Prop where
  down_iff_up : node ∈ arena.outline.descendants above ↔ above ∈ arena.outline.ancestors node
  down_iff_contains : node ∈ arena.outline.descendants above ↔
    arena.outline.contains above node ∧
      ∀ between, arena.outline.IsBetween above between node → arena.kind between ≠ .text

/-- In a reachable arena that is shallow, an element is found below another one if and only if that one is found above it,
which is so if and only if it is contained in that one and no text lies between. -/
theorem Reachable.navigatesAlike (reachable : arena.Reachable) (shallow : arena.outline.IsShallow)
    (isAbove : arena.kind above = .element) (isBelow : arena.kind node = .element)
    (ne : above ≠ node) : arena.NavigatesAlike above node := by
  have links := reachable.hasLinks
  have upper : arena.outline.isElement above := decide_eq_true isAbove
  have lower : arena.outline.isElement node := decide_eq_true isBelow
  have down_iff := (links.isForest shallow.isAcyclic).mem_descendants_iff_throughElements upper lower
  have contains_iff : arena.outline.contains above node ↔ arena.outline.IsAncestor above node := by
    rw [shallow.contains_iff]
    exact ⟨fun encloses => encloses.isAncestor_of_ne ne, fun ancestor => ancestor.encloses⟩
  constructor
  · rw [down_iff, (shallow.chainEnds node).mem_ancestors_iff]
  · rw [down_iff, shallow.isAcyclic.isAncestor_throughElements_iff upper, contains_iff]
    refine and_congr_right fun _ => forall₂_congr fun between lies => ?_
    exact links.isLinked.isElement_iff_of_isBetween lies

/-- An element with a text in which another element stands, and a third element that stands in this one. -/
def interleaved : Arena :=
  empty.after
    [.createElement "div", .addText 0 "a", .addElement 1 "p" [], .addElement 2 "b" []]

theorem reachable_interleaved : interleaved.Reachable := ⟨_, rfl⟩

theorem isShallow_interleaved : interleaved.outline.IsShallow :=
  reachable_interleaved.hasLinks.isShallow_of_older (by decide +kernel) (by decide +kernel)

/-- The innermost element is found from the one around it and the other way round. -/
theorem navigatesAlike_interleaved :
    interleaved.kind 2 = .element ∧ interleaved.kind 3 = .element ∧
      interleaved.outline.IsShallow ∧ 3 ∈ interleaved.outline.descendants 2 ∧
      2 ∈ interleaved.outline.ancestors 3 ∧ interleaved.outline.contains 2 3 := by
  have upper : interleaved.kind 2 = .element := by decide
  have lower : interleaved.kind 3 = .element := by decide
  have alike := reachable_interleaved.navigatesAlike isShallow_interleaved upper lower (by decide)
  have up : 2 ∈ interleaved.outline.ancestors 3 := by decide +kernel
  have down := alike.down_iff_up.mpr up
  exact ⟨upper, lower, isShallow_interleaved, down, up, (alike.down_iff_contains.mp down).1⟩

/-- The element in the text is contained in the one around the text, which neither of the other walks finds. -/
theorem not_found_through_text :
    interleaved.Reachable ∧ interleaved.outline.IsShallow ∧ interleaved.kind 0 = .element ∧
      interleaved.kind 2 = .element ∧ interleaved.outline.contains 0 2 ∧
      2 ∉ interleaved.outline.descendants 0 ∧ 0 ∉ interleaved.outline.ancestors 2 := by
  refine ⟨reachable_interleaved, isShallow_interleaved, by decide, by decide, ?_, ?_, ?_⟩
  · decide +kernel
  · decide +kernel
  · decide +kernel

end Shallow

section Deep

/-- Whether `contains` and the ancestors of a node say the same about a node above it but where it lies just as far up as
a walk takes steps. -/
structure CountsOneShort (arena : Arena) (above node : Handle) : Prop where
  contains_iff : arena.outline.contains above node ↔
    ∃ links < maxAncestorSteps, arena.outline.climb links node = some above
  mem_ancestors_iff : above ∈ arena.outline.ancestors node ↔
    ∃ links ≤ maxAncestorSteps, arena.outline.climb links node = some above
  agree_iff : (arena.outline.contains above node ↔ above ∈ arena.outline.ancestors node) ↔
    arena.outline.climb maxAncestorSteps node ≠ some above

/-- In an arena without cycles, however deep, the two walks up along a chain of elements differ in the one node that lies
as many links up as they take steps. -/
theorem countsOneShort (acyclic : arena.outline.IsAcyclic) (ne : above ≠ node)
    (elements : arena.outline.HasElementsUpTo above node) : arena.CountsOneShort above node := by
  have contains_iff := @Outline.contains_iff _ arena.outline _ above node
  have mem_ancestors_iff := elements.mem_ancestors_iff acyclic ne
  refine ⟨contains_iff, mem_ancestors_iff, ?_⟩
  rw [contains_iff, mem_ancestors_iff]
  constructor
  · intro agree reaches
    obtain ⟨links, lt, nearer⟩ := agree.mpr ⟨maxAncestorSteps, Nat.le_refl _, reaches⟩
    exact Nat.ne_of_lt lt (acyclic.climb_inj nearer reaches)
  · intro notThere
    constructor
    · rintro ⟨links, lt, reaches⟩
      exact ⟨links, Nat.le_of_lt lt, reaches⟩
    · rintro ⟨links, le, reaches⟩
      refine ⟨links, Nat.lt_of_le_of_ne le ?_, reaches⟩
      rintro rfl
      exact notThere reaches

/-- Every node of a chain is an element. -/
theorem kind_chain {links node : Nat} (le : node ≤ links) : (chain links).kind node = .element := by
  induction links with
  | zero =>
    rw [Nat.le_zero.mp le]
    decide
  | succ links ih =>
    rcases Nat.lt_or_eq_of_le le with lt | rfl
    · have old : node < (chain links).size := size_chain links ▸ lt
      rw [chain_succ, ((adds_addElement _ (Nat.zero_le _) (Nat.zero_le links) "a" []).grows.kind_eq old).2]
      exact ih (Nat.le_of_lt_succ lt)
    · have last := (hasNewChild_chain links).child
      rw [size_chain] at last
      exact kind_of_record? last

/-- A chain has no cycle, however long it is. -/
theorem isAcyclic_chain (links : Nat) : (chain links).outline.IsAcyclic := by
  intro node
  by_cases le : node ≤ links
  · have ended : (chain links).outline.climb (node + 1) node = none := by
      rw [climb_chain le, if_neg (Nat.not_succ_le_self node)]
    exact Outline.not_isAncestor_self_of_climb_eq_none ended
  · have beyond : ¬ (0 < node ∧ node ≤ links) := fun inside => le inside.2
    have ended : (chain links).outline.climb 1 node = none := by
      rw [Outline.climb_one]
      exact (parent_chain links node).trans (if_neg beyond)
    exact Outline.not_isAncestor_self_of_climb_eq_none ended

/-- All that lies above a node of the chain is an element. -/
theorem hasElementsUpTo_chain {links : Nat} (above node : Handle) (le : node ≤ links) :
    (chain links).outline.HasElementsUpTo above node := by
  rintro between - ⟨steps, reaches⟩
  rw [climb_chain le] at reaches
  split at reaches
  · obtain rfl := Option.some.inj reaches
    exact decide_eq_true (kind_chain ((Nat.sub_le node _).trans le))
  · cases reaches

/-- In a chain of 4,097 elements the last one is contained in the second one, from which it is 4,095 links away. -/
theorem countsOneShort_chain :
    (chain 4096).outline.IsAcyclic ∧ (chain 4096).outline.HasElementsUpTo 1 4096 ∧
      (chain 4096).outline.contains 1 4096 ∧ 1 ∈ (chain 4096).outline.ancestors 4096 := by
  have acyclic := isAcyclic_chain 4096
  have elements := hasElementsUpTo_chain 1 4096 (Nat.le_refl 4096)
  have counts := countsOneShort acyclic (by decide) elements
  have reaches : (chain 4096).outline.climb 4095 4096 = some 1 := by
    rw [climb_chain (Nat.le_refl 4096)]
    decide
  have contained := counts.contains_iff.mpr ⟨4095, by decide, reaches⟩
  exact ⟨acyclic, elements, contained, counts.mem_ancestors_iff.mpr ⟨4095, by decide, reaches⟩⟩

/-- In a chain of 4,097 elements the first one is an ancestor of the last one, which is not contained in it. -/
theorem contains_misses_farthest_ancestor :
    (chain 4096).Reachable ∧ (chain 4096).outline.IsAcyclic ∧
      (chain 4096).outline.HasElementsUpTo 0 4096 ∧ (chain 4096).kind 4096 = .element ∧
      0 ∈ (chain 4096).outline.ancestors 4096 ∧ ¬ (chain 4096).outline.contains 0 4096 := by
  have acyclic := isAcyclic_chain 4096
  have elements := hasElementsUpTo_chain 0 4096 (Nat.le_refl 4096)
  have reaches : (chain 4096).outline.climb 4096 4096 = some 0 := by
    rw [climb_chain (Nat.le_refl 4096)]
    decide
  refine ⟨reachable_chain 4096, acyclic, elements, kind_chain (Nat.le_refl 4096), ?_, fun contained => ?_⟩
  · exact (elements.mem_ancestors_iff acyclic (by decide)).mpr ⟨4096, by decide, reaches⟩
  · obtain ⟨links, lt, nearer⟩ := Outline.contains_iff.mp contained
    exact Nat.ne_of_lt lt (acyclic.climb_inj nearer reaches)

end Deep

end ElementSearch.Arena
