import ElementSearch.Proofs.Search.Coverage
import ElementSearch.Proofs.Tree.SharedLinks

/-!
# Searches that go alike

A search uses a predicate in two ways: it tests nodes, and it asks for hits. If two hosts have the same links and looks
at some nodes, and the predicates of two rules, taken in order, pass at the same ones of them and have the same hits,
then the searches of both rules start from the same nodes and return the same nodes in the same order
(`Rule.AnswersAlike.roots`, `Rule.AnswersAlike.locate`). The hosts may answer differently what no predicate asks for.
-/

namespace ElementSearch

variable {Node : Type}

section Outermost

variable [DecidableEq Node] {before after : Outline Node} {known : Node → Prop}
  (shares : before.SharesLinksOn after known)
include shares

/-- A known candidate is absorbed into known nodes alike where the links are shared. -/
theorem Outline.SharesLinksOn.absorb {candidate : Node} {kept : List Node} (isKnown : known candidate)
    (keptKnown : ∀ other ∈ kept, known other) :
    after.absorb candidate kept = before.absorb candidate kept := by
  induction kept with
  | nil => rfl
  | cons first others ih =>
    obtain ⟨firstKnown, othersKnown⟩ := List.forall_mem_cons.mp keptKnown
    have same : (others.filter fun other => !after.contains candidate other) =
        others.filter fun other => !before.contains candidate other :=
      List.filter_congr fun other member => by
        rw [shares.contains candidate (othersKnown other member)]
    rw [Outline.absorb, Outline.absorb, shares.contains candidate firstKnown,
      shares.contains first isKnown, same, ih othersKnown]

/-- Known nodes have the same outermost ones where the links are shared. -/
theorem Outline.SharesLinksOn.outermost {nodes : List Node} (allKnown : ∀ other ∈ nodes, known other) :
    after.outermost nodes = before.outermost nodes := by
  induction nodes using List.reverseRecOn with
  | nil => rw [outermost_nil, outermost_nil]
  | append_singleton nodes candidate ih =>
    have earlier : ∀ other ∈ nodes, known other := fun other member =>
      allKnown other (List.mem_append_left _ member)
    rw [outermost_append, outermost_append, ih earlier]
    exact shares.absorb (allKnown candidate (by simp)) fun other kept =>
      earlier other (mem_of_mem_outermost kept)

end Outermost

/-- What a walk collects depends on a rule only through where it holds. -/
theorem Outline.SharesLinksOn.collectWithin [DecidableEq Node] {before after : Host Node}
    {known : Node → Prop} (shares : before.SharesLinksOn after.toOutline known) {rule other : Rule}
    (holds : ∀ {node}, known node → other.holds after node = rule.holds before node)
    (traversal : Traversal) (depth : Nat) {node : Node} (isKnown : known node) :
    other.collectWithin after traversal depth node = rule.collectWithin before traversal depth node := by
  induction depth generalizing node with
  | zero => rfl
  | succ depth ih =>
    have below : (before.elementChildren node).flatMap (other.collectWithin after traversal depth) =
        (before.elementChildren node).flatMap (rule.collectWithin before traversal depth) :=
      List.flatMap_congr fun child member => ih (shares.known_of_elementChild isKnown member)
    simp only [Rule.collectWithin, holds isKnown, shares.elementChildren isKnown, below]

/-- Whether two hosts have the same links, styles and boxes at nodes from which no link leads to others. -/
structure Host.SharesLooksOn (before after : Host Node) (known : Node → Prop) : Prop
    extends before.toOutline.SharesLinksOn after.toOutline known where
  style : ∀ {node}, known node → after.style node = before.style node
  boundingRect : ∀ {node}, known node → after.boundingRect node = before.boundingRect node
  clientSize : ∀ {node}, known node → after.clientSize node = before.clientSize node

variable {before after : Host Node} {known : Node → Prop} {node : Node}

namespace Host.SharesLooksOn

variable (shares : before.SharesLooksOn after known)
include shares

/-- A known node is shown on both hosts or on neither. -/
theorem isShown (isKnown : known node) : after.isShown node = before.isShown node := by
  rw [Host.isShown, Host.isShown, shares.style isKnown]

/-- A test of the parent of a node sees the same parent. -/
theorem any_parentElement (isKnown : known node) {test other : Node → Bool}
    (same : ∀ {above}, known above → other above = test above) :
    (after.parentElement node).any other = (before.parentElement node).any test := by
  rw [shares.parentElement isKnown]
  cases linked : before.parentElement node with
  | none => rfl
  | some up => exact same (shares.known_of_parentElement isKnown linked)

/-- Searches in a known scope start at the same node. -/
theorem start? (isKnown : known node) : Rule.start? after node = Rule.start? before node := by
  rw [Rule.start?, Rule.start?, shares.kind isKnown, shares.documentElement isKnown]

/-- The search from a known scope starts at a known node. -/
theorem known_of_start? {start : Node} (isKnown : known node)
    (starts : Rule.start? before node = some start) : known start := by
  unfold Rule.start? at starts
  split at starts
  · exact shares.known_of_elementChild isKnown (List.mem_of_head? starts)
  · exact Option.some.inj starts ▸ isKnown

variable [DecidableEq Node]

/-- A test of the nodes above a node depends on what these are only. -/
theorem any_ancestors (isKnown : known node) {test other : Node → Bool}
    (same : ∀ {above}, known above → other above = test above) :
    (after.ancestors node).any other = (before.ancestors node).any test := by
  rw [shares.ancestors isKnown, Bool.eq_iff_iff, List.any_eq_true, List.any_eq_true]
  refine exists_congr fun above => and_congr_right fun member => ?_
  rw [same (shares.known_of_mem_ancestors isKnown member)]

/-- A known node is visible on both hosts or on neither. -/
theorem isVisible (isKnown : known node) : after.isVisible node = before.isVisible node := by
  have hidden : (after.ancestors node).any (fun above => !after.isShown above) =
      (before.ancestors node).any fun above => !before.isShown above :=
    shares.any_ancestors isKnown fun aboveKnown => by rw [shares.isShown aboveKnown]
  rw [Host.isVisible, Host.isVisible, shares.isShown isKnown, List.all_eq_not_any_not, hidden,
    ← List.all_eq_not_any_not]

end Host.SharesLooksOn

variable [DecidableEq Node]

/-- Whether two predicates test the same in the same place, pass at the same known nodes, and have the same hits, which
are known. Where no hits are looked up their values are the same. -/
structure Predicate.AnswersAlike (before after : Host Node) (known : Node → Prop)
    (predicate other : Predicate) : Prop where
  kind : other.kind = predicate.kind
  scope : other.scope = predicate.scope
  value : predicate.kind.isIndexable = false → other.value = predicate.value
  passes : ∀ {node}, known node → other.passes after node = predicate.passes before node
  hits? : ∀ {start}, known start → other.hits? after start = predicate.hits? before start
  known_hit : ∀ {start hits}, known start → predicate.hits? before start = some hits →
    ∀ hit ∈ hits, known hit

/-- Whether the predicates of two rules answer alike, one by one. -/
def Rule.AnswersAlike (before after : Host Node) (known : Node → Prop) (rule other : Rule) : Prop :=
  List.Forall₂ (Predicate.AnswersAlike before after known) rule.predicates other.predicates

variable (shares : before.SharesLooksOn after known)
include shares

namespace Predicate.AnswersAlike

variable {predicate other : Predicate} (alike : AnswersAlike before after known predicate other)
include alike

/-- Of a known node, a predicate and its counterpart pass alike in their scope. -/
theorem passesInScope (isKnown : known node) :
    other.passesInScope after node = predicate.passesInScope before node := by
  unfold Predicate.passesInScope
  rw [alike.scope]
  cases predicate.scope with
  | node => exact alike.passes isKnown
  | parent =>
    refine shares.any_parentElement isKnown fun aboveKnown => ?_
    rw [alike.passes aboveKnown]
  | ancestor => exact shares.any_ancestors isKnown alike.passes

/-- Of a known start, a predicate and its counterpart pass alike at the border. -/
theorem passesAtBorder (isKnown : known node) :
    other.passesAtBorder after node = predicate.passesAtBorder before node := by
  unfold Predicate.passesAtBorder
  rw [alike.passes isKnown, alike.scope]
  cases predicate.scope with
  | node => rfl
  | parent => simp only [shares.any_parentElement isKnown alike.passes]
  | ancestor => simp only [shares.any_ancestors isKnown alike.passes]

/-- A predicate and its counterpart hold of the same known nodes. -/
theorem holds (isKnown : known node) : other.holds after node = predicate.holds before node := by
  have inScope := alike.passesInScope shares isKnown
  have value := alike.value
  unfold Predicate.holds
  rw [alike.kind]
  cases kind : predicate.kind with
  | unknown => rfl
  | width | height =>
    simp only [hasMeasure, shares.boundingRect isKnown, shares.clientSize isKnown, value (kind ▸ rfl)]
  | visibility => simp only [hasVisibility, shares.isVisible isKnown, value (kind ▸ rfl)]
  | id | className | tag | source => exact inScope

/-- A predicate and its counterpart have the same candidates from a known start. -/
theorem candidates (isKnown : known node) :
    other.candidates after node = predicate.candidates before node := by
  unfold Predicate.candidates
  rw [alike.hits? isKnown, alike.passesAtBorder shares isKnown]
  cases found : predicate.hits? before node with
  | none => rfl
  | some hits =>
    have inside : (hits.filter fun hit => hit ≠ node && after.contains node hit) =
        hits.filter fun hit => hit ≠ node && before.contains node hit :=
      List.filter_congr fun hit member => by
        rw [shares.contains node (alike.known_hit isKnown found hit member)]
    simp only [inside]

omit shares in
/-- All candidates from a known start are known. -/
theorem known_of_mem_candidates (isKnown : known node) {candidate : Node}
    (member : candidate ∈ predicate.candidates before node) : known candidate := by
  cases found : predicate.hits? before node with
  | none =>
    simp only [Predicate.candidates, found, List.mem_singleton] at member
    exact member ▸ isKnown
  | some hits =>
    rcases (Predicate.mem_candidates_iff found).mp member with ⟨same, _⟩ | ⟨hit, _⟩
    · exact same ▸ isKnown
    · exact alike.known_hit isKnown found candidate hit

end Predicate.AnswersAlike

namespace Rule.AnswersAlike

variable {rule other : Rule} (alike : AnswersAlike before after known rule other)
include alike

/-- A rule and its counterpart hold of the same known nodes. -/
theorem holds (isKnown : known node) : other.holds after node = rule.holds before node := by
  unfold Rule.holds
  unfold Rule.AnswersAlike at alike
  generalize rule.predicates = predicates, other.predicates = others at *
  induction alike with
  | nil => rw [List.all_nil, List.all_nil]
  | cons first _ ih => rw [List.all_cons, List.all_cons, first.holds shares isKnown, ih]

/-- The predicates of a rule and of its counterpart have the same candidates, in order. -/
theorem flatMap_candidates (isKnown : known node) :
    (other.predicates.flatMap fun predicate => predicate.candidates after node) =
      rule.predicates.flatMap fun predicate => predicate.candidates before node := by
  unfold Rule.AnswersAlike at alike
  generalize rule.predicates = predicates, other.predicates = others at *
  induction alike with
  | nil => rw [List.flatMap_nil, List.flatMap_nil]
  | cons first _ ih => rw [List.flatMap_cons, List.flatMap_cons, first.candidates shares isKnown, ih]

omit shares in
/-- All candidates of a rule from a known start are known. -/
theorem known_of_mem_flatMap_candidates (isKnown : known node) {candidate : Node}
    (member : candidate ∈ rule.predicates.flatMap fun predicate => predicate.candidates before node) :
    known candidate := by
  unfold Rule.AnswersAlike at alike
  generalize rule.predicates = predicates, other.predicates = others at *
  induction alike with
  | nil => cases member
  | cons first _ ih =>
    rcases List.mem_append.mp member with proposed | proposed
    · exact first.known_of_mem_candidates isKnown proposed
    · exact ih proposed

/-- A rule and its counterpart have the same roots from a known start. -/
theorem rootsFrom (isKnown : known node) : other.rootsFrom after node = rule.rootsFrom before node := by
  rw [Rule.rootsFrom, Rule.rootsFrom, alike.flatMap_candidates shares isKnown]
  exact shares.outermost fun candidate member =>
    alike.known_of_mem_flatMap_candidates isKnown (mem_distinct.mp member)

/-- Searches start from the same nodes. -/
theorem roots (isKnown : known node) : other.roots after node = rule.roots before node := by
  rw [Rule.roots, Rule.roots, shares.start? isKnown]
  cases starts : Rule.start? before node with
  | none => rw [Option.elim_none, Option.elim_none]
  | some start => exact alike.rootsFrom shares (shares.known_of_start? isKnown starts)

/-- All roots of a rule from a known scope are known. -/
theorem known_of_mem_roots (isKnown : known node) {root : Node}
    (member : root ∈ rule.roots before node) : known root := by
  unfold Rule.roots at member
  cases starts : Rule.start? before node with
  | none => simp [starts] at member
  | some start =>
    rw [starts] at member
    exact alike.known_of_mem_flatMap_candidates (shares.known_of_start? isKnown starts)
      (mem_distinct.mp (Outline.mem_of_mem_outermost member))

/-- Searches find the same nodes in the same order, if walks downwards are no longer cut off in the second host. -/
theorem locate {traversal : Traversal}
    (uncut : ∀ root, rule.collectWithin before traversal (after.size + 1) root =
      rule.collect before traversal root)
    (isKnown : known node) : other.locate after traversal node = rule.locate before traversal node := by
  rw [Rule.locate, Rule.locate, alike.roots shares isKnown]
  refine congrArg distinct (List.flatMap_congr fun root member => ?_)
  have rootKnown := alike.known_of_mem_roots shares isKnown member
  rw [Rule.collect, shares.collectWithin (alike.holds shares) traversal (after.size + 1) rootKnown]
  exact uncut root

end Rule.AnswersAlike

end ElementSearch
