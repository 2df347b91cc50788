import ElementSearch.Arena.Host
import ElementSearch.Proofs.Arena.Extension
import ElementSearch.Proofs.Search.Walk
import ElementSearch.Proofs.Tree.Relink

/-!
# Which moves make cycles

A move is refused if the moved node is found above its new parent, but the guard looks for it only as far as a walk
towards the root goes. A node further up escapes it: the move is accepted and makes a cycle, around which a walk
down never ends. Nothing else makes a cycle. So the arenas that a history passes through are without cycles if and
only if no move of the history escapes the guard: `after_isAcyclic_iff`.
-/

namespace ElementSearch

namespace Arena

/-- Whether a node could be appended below itself: it lies above its new parent, but further up than the guard
looks. -/
def Escapes (arena : Arena) (parent child : Handle) : Prop :=
  parent < arena.size ∧ child < arena.size ∧ arena.kind child ≠ .document ∧
    arena.outline.Encloses child parent ∧
    ∀ links < maxAncestorSteps, arena.outline.climb links parent ≠ some child

variable {arena : Arena} {parent child : Handle}

/-- A move of a node that is no document is refused if and only if the guard finds the node above its new
parent. -/
theorem appendChild_eq_hierarchy_iff (parentLt : parent < arena.size) (childLt : child < arena.size)
    (notDocument : arena.kind child ≠ .document) :
    (arena.appendChild parent child).2 = .error (.hierarchy parent child) ↔
      arena.outline.Encloses child parent ∧ ¬ arena.Escapes parent child := by
  -- what escapes is just what the guard cannot see
  have found_iff : arena.outline.contains child parent ↔
      arena.outline.Encloses child parent ∧ ¬ arena.Escapes parent child := by
    rw [Outline.contains_iff]
    constructor
    · rintro ⟨links, lt, reaches⟩
      refine ⟨⟨links, reaches⟩, fun escapes => ?_⟩
      exact escapes.2.2.2.2 links lt reaches
    · rintro ⟨encloses, seen⟩
      by_contra missed
      refine seen ⟨parentLt, childLt, notDocument, encloses, fun links lt reaches => ?_⟩
      exact missed ⟨links, lt, reaches⟩
  have isParent : arena.record? parent ≠ none := by
    rw [← Option.isSome_iff_ne_none, record?_isSome_iff]
    exact parentLt
  have isChild : arena.record? child ≠ none := by
    rw [← Option.isSome_iff_ne_none, record?_isSome_iff]
    exact childLt
  rw [← found_iff]
  unfold appendChild appendError?
  by_cases found : arena.outline.contains child parent <;>
    simp [isParent, isChild, notDocument, found]

/-- The guard lets through an ancestor that lies beyond the steps it climbs. -/
theorem appendError?_of_escapes (escapes : arena.Escapes parent child) :
    arena.appendError? parent child = none := by
  obtain ⟨parentLt, childLt, notDocument, _, missed⟩ := escapes
  refine arena.appendError?_eq_none_iff.mpr ⟨parentLt, childLt, notDocument, fun found => ?_⟩
  obtain ⟨links, lt, reaches⟩ := Outline.contains_iff.mp found
  exact missed links lt reaches

/-- A move relinks one node. -/
theorem relinked_attach (childLt : child < arena.size) :
    arena.outline.Relinked (arena.attach parent child).outline child parent :=
  arena.parent_attach parent childLt

/-- A move that was accepted makes a cycle if and only if it escaped the guard. -/
theorem isAcyclic_attach_iff (accepted : arena.appendError? parent child = none)
    (acyclic : arena.outline.IsAcyclic) :
    (arena.attach parent child).outline.IsAcyclic ↔ ¬ arena.Escapes parent child := by
  obtain ⟨parentLt, childLt, notDocument, notFound⟩ := arena.appendError?_eq_none_iff.mp accepted
  rw [(relinked_attach childLt).isAcyclic_iff acyclic, not_iff_not]
  constructor
  · intro encloses
    refine ⟨parentLt, childLt, notDocument, encloses, fun links lt reaches => notFound ?_⟩
    exact Outline.contains_iff.mpr ⟨links, lt, reaches⟩
  · exact fun escapes => escapes.2.2.2.1

section Growth

variable {before after : Arena}

/-- A node without children never escapes the guard. -/
theorem HasLinks.not_escapes_of_childless (links : arena.HasLinks)
    (childless : arena.children child = []) : ¬ arena.Escapes parent child := by
  rintro ⟨_, _, _, encloses, missed⟩
  by_cases same : parent = child
  · exact missed 0 (by decide) (congrArg some same)
  · exact links.not_encloses_of_childless childless same encloses

/-- Growth makes no cycle. -/
theorem isAcyclic_of_growth (growth : Growth before after)
    (kept : before.HasLinks ∧ before.outline.IsAcyclic) :
    after.HasLinks ∧ after.outline.IsAcyclic := by
  obtain ⟨links, acyclic⟩ := kept
  refine ⟨links.grow growth, ?_⟩
  have of_same : after.parent = before.parent → after.outline.IsAcyclic := by
    intro same
    have climbs : after.outline.climb = before.outline.climb := by
      funext steps node
      induction steps generalizing node with
      | zero => rfl
      | succ steps ih =>
        have sameUp : after.outline.parent = before.outline.parent := same
        rw [Outline.climb_succ, Outline.climb_succ, funext ih, sameUp]
    rintro node ⟨steps, cycle⟩
    rw [climbs] at cycle
    exact acyclic node ⟨steps, cycle⟩
  cases growth with
  | create bare => exact of_same (by simp)
  | write element name value => exact of_same (by simp)
  | restyle node keeps => exact of_same (by simp)
  | own document owner => exact of_same (by simp)
  | embed isDocument frame => exact of_same (by simp)
  | adopt accepted loose childless =>
    exact (isAcyclic_attach_iff accepted acyclic).mpr (links.not_escapes_of_childless childless)

end Growth

end Arena

/-- Whether an operation is a move that escapes the guard. -/
def Operation.EscapesGuard (operation : Operation) (arena : Arena) : Prop :=
  ∃ parent child, operation = .appendChild parent child ∧ arena.Escapes parent child

namespace Arena

variable {arena : Arena}

/-- An operation makes a cycle if and only if it is a move that escapes the guard. -/
theorem isAcyclic_apply_iff (links : arena.HasLinks) (acyclic : arena.outline.IsAcyclic)
    (operation : Operation) :
    (operation.apply arena).1.outline.IsAcyclic ↔ ¬ operation.EscapesGuard arena := by
  rcases operation.grows_or_moves arena with grows | ⟨parent, child, rfl, accepted, moved⟩
  · have kept := (grows.preserves isAcyclic_of_growth ⟨links, acyclic⟩).2
    refine iff_of_true kept ?_
    rintro ⟨parent, child, rfl, escapes⟩
    have accepted := appendError?_of_escapes escapes
    have moved : (Operation.apply (.appendChild parent child) arena).1 =
        arena.attach parent child := by
      simp [Operation.apply, Operation.changed, appendChild, accepted]
    rw [moved] at kept
    exact (isAcyclic_attach_iff accepted acyclic).mp kept escapes
  · rw [moved, isAcyclic_attach_iff accepted acyclic, not_iff_not]
    constructor
    · exact fun escapes => ⟨parent, child, rfl, escapes⟩
    · rintro ⟨_, _, same, escapes⟩
      cases same
      exact escapes

/-- A history passes through arenas without cycles if and only if none of its moves escapes the guard. -/
theorem after_isAcyclic_iff (links : arena.HasLinks) (acyclic : arena.outline.IsAcyclic)
    (history : List Operation) :
    (∀ passed, passed <+: history → (arena.after passed).outline.IsAcyclic) ↔
      ∀ passed operation, passed ++ [operation] <+: history →
        ¬ operation.EscapesGuard (arena.after passed) :=
  @after_prefixes_iff (·.outline.IsAcyclic) Operation.EscapesGuard arena acyclic
    (fun passed operation soFar => isAcyclic_apply_iff (links.after passed) soFar operation) history

/-- Where no node lies above itself, and only there, every walk down ends. -/
theorem HasLinks.isAcyclic_iff_wellFounded (links : arena.HasLinks) :
    arena.outline.IsAcyclic ↔ WellFounded fun child node => child ∈ arena.children node :=
  ⟨fun acyclic => (links.isForest acyclic).wellFounded_children,
    links.isLinked.isAcyclic_of_wellFounded⟩

/-- How far the guard of moves goes, for whatever a history leads to. A move is refused if and only if the moved
node is its new parent or above it, unless it escapes the guard. Without cycles, and only then, every walk down
ends, and it finds no more than its bound lets it. -/
theorem append_guard_exact (history : List Operation) :
    (∀ parent child, parent < (empty.after history).size → child < (empty.after history).size →
      (empty.after history).kind child ≠ .document →
        (((empty.after history).appendChild parent child).2 = .error (.hierarchy parent child) ↔
          (empty.after history).outline.Encloses child parent ∧
            ¬ (empty.after history).Escapes parent child)) ∧
      ((∀ passed, passed <+: history → (empty.after passed).outline.IsAcyclic) ↔
        ∀ passed operation, passed ++ [operation] <+: history →
          ¬ operation.EscapesGuard (empty.after passed)) ∧
      ((empty.after history).outline.IsAcyclic ↔
        WellFounded fun child node => child ∈ (empty.after history).children node) ∧
      ((empty.after history).outline.IsAcyclic →
        ∀ depth, (empty.after history).size ≤ depth → ∀ scope,
          (empty.after history).outline.descendantsWithin depth scope =
              (empty.after history).outline.descendants scope ∧
            ∀ (rule : Rule) (traversal : Traversal),
              rule.collectWithin (empty.after history).host traversal (depth + 1) scope =
                rule.collect (empty.after history).host traversal scope) := by
  have links := HasLinks.empty.after history
  refine ⟨?_, ?_, links.isAcyclic_iff_wellFounded, ?_⟩
  · intro parent child parentLt childLt notDocument
    exact appendChild_eq_hierarchy_iff parentLt childLt notDocument
  · refine after_isAcyclic_iff .empty ?_ history
    rintro node ⟨steps, cycle⟩
    cases cycle
  · intro acyclic depth le scope
    have forest := links.isForest acyclic
    have hostForest : (empty.after history).host.IsForest := forest
    refine ⟨forest.descendantsWithin_eq_descendants le scope, fun rule traversal => ?_⟩
    exact Rule.collectWithin_eq_collect hostForest (Nat.succ_le_succ le) scope

section Chain

/-- Elements each of which but the first lies below the one before. -/
def chain (links : Nat) : Arena :=
  empty.after (.createElement "a" :: (List.range links).map fun parent => .addElement parent "a" [])

/-- A chain grows by one element below its last one. -/
theorem chain_succ (links : Nat) :
    chain (links + 1) = ((chain links).addElement links "a" []).1 := by
  rw [chain, List.range_succ, List.map_append, ← List.cons_append, after_append]
  rfl

theorem reachable_chain (links : Nat) : (chain links).Reachable := ⟨_, rfl⟩

/-- A chain of `links` links has one node more than links. -/
theorem size_chain (links : Nat) : (chain links).size = links + 1 := by
  induction links with
  | zero => rfl
  | succ links ih =>
    have lt : links < (chain links).size := ih ▸ Nat.lt_succ_self links
    rw [chain_succ, ((reachable_chain links).hasLinks.hasNewChild_addElement lt "a").size, ih]

/-- The element added last hangs below the one that was last before it. -/
theorem hasNewChild_chain (links : Nat) :
    (chain links).HasNewChild links (.element (.plain "a")) (chain (links + 1)) := by
  have lt : links < (chain links).size := size_chain links ▸ Nat.lt_succ_self links
  rw [chain_succ]
  exact (reachable_chain links).hasLinks.hasNewChild_addElement lt "a"

/-- Every chain is grown from its first element. -/
theorem grows_chain (links : Nat) : Grows (chain 0) (chain links) := by
  induction links with
  | zero => exact .refl
  | succ links ih =>
    rw [chain_succ]
    exact ih.trans (adds_addElement _ (Nat.zero_le _) (Nat.zero_le links) "a" []).grows

/-- In a chain, the parent of every node but the first is the node before it. -/
theorem parent_chain (links node : Nat) :
    (chain links).parent node = if 0 < node ∧ node ≤ links then some (node - 1) else none := by
  induction links with
  | zero =>
    have nothing : ¬ (0 < node ∧ node ≤ 0) := by omega
    rw [if_neg nothing]
    exact congrFun (Arena.empty.parent_push _) node
  | succ links ih =>
    rw [(hasNewChild_chain links).parent, size_chain, ih]
    by_cases last : node = links + 1
    · simp [last]
    · have same : 0 < node ∧ node ≤ links ↔ 0 < node ∧ node ≤ links + 1 := by omega
      simp only [last, if_false, same]

/-- Climbing a chain counts down, and stops at its first element. -/
theorem climb_chain {links node : Nat} (le : node ≤ links) (steps : Nat) :
    (chain links).outline.climb steps node =
      if steps ≤ node then some (node - steps) else none := by
  induction steps generalizing node with
  | zero => simp
  | succ steps ih =>
    have up : (chain links).outline.parent node = _ := parent_chain links node
    rw [Outline.climb_succ, up]
    cases node with
    | zero => simp
    | succ node =>
      have inside : 0 < node + 1 ∧ node + 1 ≤ links := by omega
      rw [if_pos inside, Option.bind_some, ih (by omega)]
      simp

/-- The first element of a long chain escapes the guard at its last one. -/
theorem escapes_chain {links : Nat} (long : maxAncestorSteps ≤ links) :
    (chain links).Escapes links 0 := by
  have size := size_chain links
  have climbs := climb_chain (Nat.le_refl links)
  refine ⟨size ▸ Nat.lt_succ_self links, size ▸ Nat.succ_pos links, ?_, ⟨links, ?_⟩, ?_⟩
  · have first : (chain 0).kind 0 = .element := by decide
    have lt : 0 < (chain 0).size := by decide
    rw [((grows_chain links).kind_eq lt).2, first]
    decide
  · rw [climbs, if_pos (Nat.le_refl links), Nat.sub_self]
  · intro steps lt reaches
    have inside : steps ≤ links := by omega
    rw [climbs, if_pos inside] at reaches
    have top := Option.some.inj reaches
    omega

/-- In a chain of 4,097 elements the guard lets the last one adopt the first one, which makes a cycle. -/
theorem guard_misses_distant_ancestor :
    (chain 4096).Reachable ∧ (chain 4096).outline.Encloses 0 4096 ∧
      ((chain 4096).appendChild 4096 0).2 = .ok () ∧
      ¬ ((chain 4096).appendChild 4096 0).1.outline.IsAcyclic := by
  have escapes : (chain 4096).Escapes 4096 0 := escapes_chain (by decide)
  have accepted := appendError?_of_escapes escapes
  have acyclic : (chain 4096).outline.IsAcyclic := by
    refine isAcyclic_of_parent_lt fun {node up} linked => ?_
    rw [parent_chain] at linked
    split at linked
    · next inside =>
      cases linked
      exact Nat.sub_lt inside.1 Nat.one_pos
    · cases linked
  have cycle := mt (isAcyclic_attach_iff accepted acyclic).mp (not_not.mpr escapes)
  refine ⟨reachable_chain 4096, escapes.2.2.2.1, ?_, ?_⟩
  · rw [appendChild, accepted]
  · rw [appendChild, accepted]
    exact cycle

end Chain

end Arena

end ElementSearch
