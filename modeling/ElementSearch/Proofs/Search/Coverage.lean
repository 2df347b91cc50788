import ElementSearch.Proofs.Search.Walk

/-!
# What the candidates of a predicate cover

A search walks down from candidates only, so it finds a match if and only if some candidate encloses it:
`Rule.mem_locate_every_iff_exists_candidate`. One predicate of a rule whose candidates cover all its matches is enough
for the whole rule: `Rule.mem_locate_every_iff`. The candidates of a predicate cover its matches if each element that
passes its test lies in a hit of its lookup, and all the more if the lookup misses none of them:
`Predicate.covers_of_looksUpEnough` and `Predicate.covers_of_looksUpAll`. The three scopes share that one proof
obligation, since whatever a predicate looks at above the root of the subtree shows at the border.
-/

namespace ElementSearch

variable {Node : Type} [DecidableEq Node]

namespace Predicate

/-- Each match of a predicate in the subtree of a node lies in one of its candidates. -/
def Covers (host : Host Node) (predicate : Predicate) (start : Node) : Prop :=
  ∀ node ∈ host.subtree start, predicate.holds host node →
    ∃ candidate ∈ predicate.candidates host start, host.Encloses candidate node

/-- A lookup for a predicate, if there is one, misses no element below a node that passes its test. -/
def LooksUpAll (host : Host Node) (predicate : Predicate) (start : Node) : Prop :=
  ∀ hits, predicate.hits? host start = some hits →
    ∀ node ∈ host.descendants start, predicate.passes host node → node ∈ hits

/-- A lookup for a predicate, if there is one, finds enough to search from: the root of the subtree is searched
anyway, or each element below it that passes the test lies in a hit below it. -/
def LooksUpEnough (host : Host Node) (predicate : Predicate) (start : Node) : Prop :=
  ∀ hits, predicate.hits? host start = some hits → predicate.passesAtBorder host start ∨
    ∀ node ∈ host.descendants start, predicate.passes host node →
      ∃ hit ∈ hits, hit ∈ host.descendants start ∧ host.Encloses hit node

/-- A lookup for a predicate, if there is one, finds elements only. -/
def LooksUpElements (host : Host Node) (predicate : Predicate) (start : Node) : Prop :=
  ∀ hits, predicate.hits? host start = some hits → ∀ node ∈ hits, host.isElement node

variable {host : Host Node} {predicate : Predicate}

/-- Only predicates that are tested in a scope are looked up. -/
theorem holds_of_hits? {start node : Node} {hits : List Node}
    (found : predicate.hits? host start = some hits) :
    predicate.holds host node = predicate.passesInScope host node := by
  unfold hits? at found
  unfold holds
  split at found
  · cases found
  · cases kind : predicate.kind <;> simp_all

/-- The candidates of a looked-up predicate are the start, if the predicate passes at the border,
and the proposed nodes below it. -/
theorem mem_candidates_iff {start candidate : Node} {hits : List Node}
    (found : predicate.hits? host start = some hits) :
    candidate ∈ predicate.candidates host start ↔
      candidate = start ∧ predicate.passesAtBorder host start ∨
        candidate ∈ hits ∧ candidate ≠ start ∧ host.contains start candidate := by
  rw [candidates, found]
  by_cases border : predicate.passesAtBorder host start <;> simp [border]

/-- The start is a candidate where the predicate passes at the border. -/
theorem start_mem_candidates {start : Node} {hits : List Node}
    (found : predicate.hits? host start = some hits)
    (border : predicate.passesAtBorder host start) :
    start ∈ predicate.candidates host start :=
  (mem_candidates_iff found).mpr (.inl ⟨rfl, border⟩)

/-- A match at the root of a subtree shows at the border. -/
theorem passesAtBorder_of_passesInScope {start : Node}
    (passes : predicate.passesInScope host start) : predicate.passesAtBorder host start := by
  unfold passesInScope at passes
  unfold passesAtBorder
  cases scope : predicate.scope with
  | node => simp_all
  | ancestor => simp_all
  | parent =>
    simp only [scope, Option.any_eq_true, Bool.and_eq_true] at passes ⊢
    obtain ⟨parent, isParent, _, passes⟩ := passes
    simp [isParent, passes]

section Forest

variable (forest : host.IsShallowForest) (leaves : host.HasLeafTexts)
include forest leaves

/-- A match strictly below the root of a subtree looks at an element which passes, and which lies at the
border or between the root and the match. -/
theorem passesAtBorder_or_exists_of_passesInScope {start node : Node}
    (below : node ∈ host.descendants start) (passes : predicate.passesInScope host node) :
    predicate.passesAtBorder host start ∨
      ∃ seen ∈ host.descendants start, predicate.passes host seen ∧ host.Encloses seen node := by
  obtain ⟨element, ancestor⟩ := forest.of_mem_descendants below
  unfold passesInScope at passes
  cases scope : predicate.scope with
  | node =>
    rw [scope] at passes
    exact .inr ⟨node, below, passes, .refl node⟩
  | parent =>
    simp only [scope, Option.any_eq_true, Bool.and_eq_true] at passes
    obtain ⟨parent, isParent, _, passes⟩ := passes
    obtain ⟨up, parentIsElement⟩ := Option.filter_eq_some_iff.mp isParent
    obtain ⟨_, linked, encloses⟩ := Outline.isAncestor_iff_parent.mp ancestor
    rw [Option.some.inj (linked.symm.trans up)] at encloses
    by_cases same : start = parent
    · exact .inl (by simp [passesAtBorder, same, passes])
    · refine .inr ⟨parent, ?_, passes, ?_⟩
      · exact (forest.mem_descendants_iff leaves).mpr
          ⟨parentIsElement, encloses.isAncestor_of_ne same⟩
      · exact (Outline.isAncestor_of_parent up).encloses
  | ancestor =>
    simp only [scope, List.any_eq_true] at passes
    obtain ⟨above, isAbove, passes⟩ := passes
    obtain ⟨aboveIsElement, aboveNode⟩ := Outline.of_mem_ancestors isAbove
    by_cases same : start = above
    · exact .inl (by simp [passesAtBorder, same, passes])
    · rcases ancestor.encloses.total aboveNode.encloses with encloses | encloses
      · refine .inr ⟨above, ?_, passes, aboveNode.encloses⟩
        exact (forest.mem_descendants_iff leaves).mpr
          ⟨aboveIsElement, encloses.isAncestor_of_ne same⟩
      · -- an element above the root is one of its ancestors
        have isAncestor : above ∈ host.ancestors start :=
          (forest.mem_ancestors_iff leaves forest.shallow).mpr
            ⟨aboveIsElement, encloses.isAncestor_of_ne fun eq => same eq.symm⟩
        refine .inl ?_
        simp only [passesAtBorder, scope, Bool.or_eq_true, List.any_eq_true]
        exact .inr ⟨above, isAncestor, passes⟩

/-- The candidates of a predicate cover its matches if its lookup finds enough. -/
theorem covers_of_looksUpEnough {start : Node} (enough : predicate.LooksUpEnough host start) :
    predicate.Covers host start := by
  intro node member holds
  have inStart := forest.encloses_of_mem_subtree member
  cases found : predicate.hits? host start with
  | none => exact ⟨start, by simp [candidates, found], inStart⟩
  | some hits =>
    rw [holds_of_hits? found] at holds
    have atBorder : predicate.passesAtBorder host start →
        ∃ candidate ∈ predicate.candidates host start, host.Encloses candidate node :=
      fun border => ⟨start, start_mem_candidates found border, inStart⟩
    rcases enough hits found with border | inHits
    · exact atBorder border
    rcases List.mem_cons.mp member with rfl | below
    · exact atBorder (passesAtBorder_of_passesInScope holds)
    rcases passesAtBorder_or_exists_of_passesInScope forest leaves below holds with
      border | ⟨seen, inside, passes, encloses⟩
    · exact atBorder border
    · obtain ⟨hit, isHit, hitInside, above⟩ := inHits seen inside passes
      have ancestor := (forest.of_mem_descendants hitInside).2
      refine ⟨hit, (mem_candidates_iff found).mpr (.inr ⟨isHit, ?_, ?_⟩), above.trans encloses⟩
      · rintro rfl
        exact forest.isAcyclic hit ancestor
      · exact forest.shallow.contains_iff.mpr ancestor.encloses

omit forest leaves in
/-- Proposing all elements that pass is proposing enough. -/
theorem LooksUpAll.looksUpEnough {start : Node} (complete : predicate.LooksUpAll host start) :
    predicate.LooksUpEnough host start :=
  fun hits found => .inr fun node below passes =>
    ⟨node, complete hits found node below passes, below, .refl node⟩

/-- The candidates of a predicate cover its matches if its lookup is complete. -/
theorem covers_of_looksUpAll {start : Node} (complete : predicate.LooksUpAll host start) :
    predicate.Covers host start :=
  covers_of_looksUpEnough forest leaves complete.looksUpEnough

/-- If the index proposes elements only, all candidates are in the subtree of the start. -/
theorem mem_subtree_of_mem_candidates {start candidate : Node}
    (elements : predicate.LooksUpElements host start)
    (member : candidate ∈ predicate.candidates host start) : candidate ∈ host.subtree start := by
  rw [forest.mem_subtree_iff leaves]
  cases found : predicate.hits? host start with
  | none =>
    simp only [candidates, found, List.mem_singleton] at member
    exact .inl member
  | some hits =>
    rcases (mem_candidates_iff found).mp member with ⟨same, _⟩ | ⟨hit, ne, inside⟩
    · exact .inl same
    · have encloses := forest.shallow.contains_iff.mp inside
      exact .inr ⟨elements hits found candidate hit, encloses.isAncestor_of_ne fun eq => ne eq.symm⟩

end Forest

end Predicate

namespace Rule

/-- Whether a search for a rule returns the nodes of the searched subtree at which the rule holds, and no others. From
a document without a root element nothing is searched. -/
def IsExact (host : Host Node) (rule : Rule) (scope : Node) : Prop :=
  ∀ node, node ∈ rule.locateEvery host scope ↔
    ∃ start, start? host scope = some start ∧ node ∈ host.subtree start ∧ rule.holds host node

variable {host : Host Node} {rule : Rule}

/-- Every root is a candidate of one of the predicates. -/
theorem mem_candidates_of_mem_rootsFrom {start root : Node}
    (member : root ∈ rule.rootsFrom host start) :
    ∃ predicate ∈ rule.predicates, root ∈ predicate.candidates host start := by
  have candidate := Outline.mem_of_mem_outermost member
  rwa [mem_distinct, List.mem_flatMap] at candidate

/-- Each candidate of a predicate lies in one of the roots of a search. -/
theorem exists_root_encloses (shallow : host.IsShallow) {predicate : Predicate}
    (isPredicate : predicate ∈ rule.predicates) {start candidate : Node}
    (member : candidate ∈ predicate.candidates host start) :
    ∃ root ∈ rule.rootsFrom host start, host.Encloses root candidate := by
  refine Outline.exists_outermost_encloses shallow ?_
  rw [mem_distinct, List.mem_flatMap]
  exact ⟨predicate, isPredicate, member⟩

/-- The roots of a search lie in the subtree in which it searches. -/
theorem mem_subtree_of_mem_rootsFrom (forest : host.IsShallowForest)
    (leaves : host.HasLeafTexts) {start root : Node}
    (elements : ∀ predicate ∈ rule.predicates, predicate.LooksUpElements host start)
    (member : root ∈ rule.rootsFrom host start) : root ∈ host.subtree start := by
  obtain ⟨proposer, isProposer, candidate⟩ := mem_candidates_of_mem_rootsFrom member
  exact Predicate.mem_subtree_of_mem_candidates forest leaves (elements proposer isProposer)
    candidate

/-- A search finds nothing outside the subtree in which it searches. -/
theorem mem_subtree_of_mem_locate (forest : host.IsShallowForest) (leaves : host.HasLeafTexts)
    {scope start : Node} (starts : start? host scope = some start)
    (elements : ∀ predicate ∈ rule.predicates, predicate.LooksUpElements host start)
    {traversal : Traversal} {node : Node} (member : node ∈ rule.locate host traversal scope) :
    node ∈ host.subtree start := by
  have found : node ∈ rule.locate host .every scope := by
    cases traversal with
    | every => exact member
    | outermost => exact ((mem_locate_outermost_iff forest).mp member).1
  simp only [mem_locate_iff, mem_collect_every_iff, roots, starts, Option.elim_some] at found
  obtain ⟨root, isRoot, inRoot, _⟩ := found
  have rootInside := mem_subtree_of_mem_rootsFrom forest leaves elements isRoot
  rcases (forest.mem_subtree_iff leaves).mp inRoot with rfl | ⟨element, ancestor⟩
  · exact rootInside
  · have encloses := forest.encloses_of_mem_subtree rootInside
    exact (forest.mem_subtree_iff leaves).mpr
      (.inr ⟨element, encloses.trans_isAncestor ancestor⟩)

/-- A search finds those nodes of the searched subtree at which the rule holds and which lie in a candidate of some
predicate. -/
theorem mem_locate_every_iff_exists_candidate (forest : host.IsShallowForest)
    (leaves : host.HasLeafTexts) {scope start : Node} (starts : start? host scope = some start)
    (elements : ∀ predicate ∈ rule.predicates, predicate.LooksUpElements host start)
    {node : Node} :
    node ∈ rule.locate host .every scope ↔
      node ∈ host.subtree start ∧ rule.holds host node ∧
        ∃ predicate ∈ rule.predicates, ∃ candidate ∈ predicate.candidates host start,
          host.Encloses candidate node := by
  constructor
  · intro member
    refine ⟨mem_subtree_of_mem_locate forest leaves starts elements member, ?_⟩
    simp only [mem_locate_iff, mem_collect_every_iff, roots, starts, Option.elim_some] at member
    obtain ⟨root, isRoot, inRoot, holds⟩ := member
    obtain ⟨proposer, isProposer, candidate⟩ := mem_candidates_of_mem_rootsFrom isRoot
    exact ⟨holds, proposer, isProposer, root, candidate, forest.encloses_of_mem_subtree inRoot⟩
  · rintro ⟨inStart, holds, predicate, isPredicate, candidate, isCandidate, inCandidate⟩
    obtain ⟨root, isRoot, inRoot⟩ := exists_root_encloses forest.shallow isPredicate isCandidate
    have encloses := inRoot.trans inCandidate
    have rootInside := forest.encloses_of_mem_subtree
      (mem_subtree_of_mem_rootsFrom forest leaves elements isRoot)
    simp only [mem_locate_iff, mem_collect_every_iff, roots, starts, Option.elim_some]
    refine ⟨root, isRoot, (forest.mem_subtree_iff leaves).mpr ?_, holds⟩
    -- the start itself is found only if it is the root
    rcases (forest.mem_subtree_iff leaves).mp inStart with rfl | ⟨element, _⟩
    · exact .inl (forest.isAcyclic.antisymm rootInside encloses)
    · exact (Outline.encloses_iff_eq_or_isAncestor.mp encloses).imp_right fun ancestor =>
        ⟨element, ancestor⟩

/-- A search is exact if the candidates of one of its predicates cover the matches of that predicate. -/
theorem mem_locate_every_iff (forest : host.IsShallowForest) (leaves : host.HasLeafTexts)
    {scope start : Node} (starts : start? host scope = some start)
    (elements : ∀ predicate ∈ rule.predicates, predicate.LooksUpElements host start)
    {predicate : Predicate} (isPredicate : predicate ∈ rule.predicates)
    (covers : predicate.Covers host start) {node : Node} :
    node ∈ rule.locate host .every scope ↔ node ∈ host.subtree start ∧ rule.holds host node := by
  rw [mem_locate_every_iff_exists_candidate forest leaves starts elements]
  refine and_congr_right fun inStart => and_iff_left_of_imp fun holds => ?_
  have holdsPredicate := List.all_eq_true.mp holds predicate isPredicate
  exact ⟨predicate, isPredicate, covers node inStart holdsPredicate⟩

/-- A search is exact as soon as one predicate of the rule covers the start. -/
theorem isExact_of_covers (forest : host.IsShallowForest) (leaves : host.HasLeafTexts) {scope : Node}
    (elements : ∀ (predicate : Predicate) (start : Node), predicate.LooksUpElements host start)
    {predicate : Predicate} (isPredicate : predicate ∈ rule.predicates)
    (covers : ∀ start, start? host scope = some start → predicate.Covers host start) :
    rule.IsExact host scope := by
  intro node
  cases starts : start? host scope with
  | none => simp [locateEvery, mem_locate_iff, roots, starts]
  | some start =>
    simp only [Option.some.injEq, exists_eq_left']
    exact mem_locate_every_iff forest leaves starts (fun other _ => elements other start) isPredicate
      (covers start starts)

end Rule

end ElementSearch
