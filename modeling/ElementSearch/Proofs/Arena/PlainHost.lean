import ElementSearch.Proofs.Arena.Exactness
import ElementSearch.Proofs.Arena.Scans
import ElementSearch.Proofs.Search.Likeness

/-!
# The indexes change no search

An arena could answer searches without its indexes: lookups by id would scan the document, and lookups by class
would not be offered. Such a host proposes other nodes to start from, but its searches return the same nodes. That
holds even if ids repeat, when a search may miss matches: then both miss the same ones.
-/

namespace ElementSearch.Arena

open Text

/-- The arena as a host without indexes. -/
def plainHost (arena : Arena) : Host Handle where
  toOutline := arena.outline
  property := arena.property
  style := arena.host.style
  boundingRect := arena.host.boundingRect
  clientSize := arena.host.clientSize
  contentDocument := arena.host.contentDocument

variable {arena : Arena} {rule : Rule} {predicate : Predicate}

/-- The host without an index has the same links and sees the same nodes. -/
theorem sharesLooks_plainHost (arena : Arena) :
    arena.host.SharesLooksOn arena.plainHost fun _ => True where
  toSharesLinksOn := .refl arena.outline
  style _ := rfl
  boundingRect _ := rfl
  clientSize _ := rfl

/-- What a rule tests does not depend on lookups. -/
theorem holds_plainHost (node : Handle) :
    rule.holds arena.plainHost node = rule.holds arena.host node := by
  have same : ∀ predicate : Predicate,
      predicate.holds arena.plainHost node = predicate.holds arena.host node := by
    intro predicate
    unfold Predicate.holds
    cases predicate.kind <;> rfl
  simp only [Rule.holds, same]

/-- Without indexes classes are not looked up. -/
theorem hits?_plainHost_of_className (kind : predicate.kind = .className) (start : Handle) :
    predicate.hits? arena.plainHost start = none := by
  unfold Predicate.hits?
  split
  · rfl
  · rw [kind]
    unfold Predicate.classHits?
    cases found : arena.plainHost.documentOf start <;> rfl

/-- Whether a predicate is looked up by class, which only the indexes allow. -/
def UsesClassIndex (predicate : Predicate) : Prop :=
  predicate.kind = .className ∧ predicate.isWildcard = false

section Agreement

variable (links : arena.HasLinks) (filed : arena.IsFiled) (shallow : arena.outline.IsShallow)
  (leaves : arena.outline.HasLeafTexts)
include links filed shallow leaves

/-- A predicate that does not use the class index is looked up alike with and without indexes. -/
theorem hits?_plainHost (other : ¬ UsesClassIndex predicate)
    (nonempty : predicate.kind = .id → predicate.value ≠ "") (start : Handle) :
    predicate.hits? arena.plainHost start = predicate.hits? arena.host start := by
  unfold Predicate.hits?
  split
  · rfl
  · next notWildcard =>
    cases kind : predicate.kind with
    | id =>
      refine Option.map_congr fun document found => ?_
      have isDocument : arena.kind document = .document :=
        ((links.isLinked.documentOf_eq_some_iff shallow).mp found).2
      exact congrArg Option.toList
        (elementById_eq_firstWithId links filed shallow leaves isDocument (nonempty kind)).symm
    | className => exact absurd ⟨kind, Bool.not_eq_true _ ▸ notWildcard⟩ other
    | _ => rfl

/-- Both hosts answer every predicate alike but those that use the class index. -/
theorem answersAlike_plainHost (other : ¬ UsesClassIndex predicate)
    (nonempty : predicate.kind = .id → predicate.value ≠ "") :
    predicate.AnswersAlike arena.host arena.plainHost (fun _ => True) predicate where
  kind := rfl
  scope := rfl
  value _ := rfl
  passes _ := rfl
  hits? _ := hits?_plainHost links filed shallow leaves other nonempty _
  known_hit _ _ _ _ := trivial

/-- What the host without an index proposes are elements. -/
theorem looksUpElements_plainHost (nonempty : predicate.kind = .id → predicate.value ≠ "")
    (start : Handle) : predicate.LooksUpElements arena.plainHost start := by
  intro hits found
  by_cases indexed : UsesClassIndex predicate
  · rw [hits?_plainHost_of_className indexed.1] at found
    cases found
  · rw [hits?_plainHost links filed shallow leaves indexed nonempty] at found
    exact looksUpElements filed links.isLinked predicate start hits found

variable (nonempty : ∀ predicate ∈ rule.predicates, predicate.kind = .id → predicate.value ≠ "")
include nonempty

/-- With a class to look up, the search is exact with the indexes, and without them it is a walk through the
whole subtree. -/
theorem mem_locate_every_plainHost_of_usesClassIndex (isPredicate : predicate ∈ rule.predicates)
    (indexed : UsesClassIndex predicate) {scope start : Handle}
    (starts : Rule.start? arena.host scope = some start) (node : Handle) :
    node ∈ rule.locate arena.host .every scope ↔
      node ∈ rule.locate arena.plainHost .every scope := by
  have forest := links.isShallowForest shallow
  have byIndex := Predicate.covers_of_looksUpAll forest leaves
    (looksUpAll_of_className links filed shallow indexed.1 start)
  have byWalk : predicate.Covers arena.plainHost start := by
    refine Predicate.covers_of_looksUpAll forest leaves fun hits found => ?_
    rw [hits?_plainHost_of_className indexed.1] at found
    cases found
  have elements : ∀ other ∈ rule.predicates, other.LooksUpElements arena.host start :=
    fun other _ => looksUpElements filed links.isLinked other start
  have elementsPlain : ∀ other ∈ rule.predicates, other.LooksUpElements arena.plainHost start :=
    fun other member =>
      looksUpElements_plainHost links filed shallow leaves (nonempty other member) start
  have startsPlain : Rule.start? arena.plainHost scope = some start := starts
  rw [Rule.mem_locate_every_iff forest leaves starts elements isPredicate byIndex,
    Rule.mem_locate_every_iff forest leaves startsPlain elementsPlain isPredicate byWalk,
    holds_plainHost]
  rfl

/-- Without a class to look up, the searches start from the same nodes. -/
theorem roots_plainHost (other : ∀ predicate ∈ rule.predicates, ¬ UsesClassIndex predicate)
    (scope : Handle) : rule.roots arena.plainHost scope = rule.roots arena.host scope := by
  have alike : rule.AnswersAlike arena.host arena.plainHost (fun _ => True) rule :=
    List.forall₂_same.mpr fun predicate member => answersAlike_plainHost links filed shallow leaves
      (other predicate member) (nonempty predicate member)
  exact alike.roots arena.sharesLooks_plainHost trivial

/-- Searches for every match agree with and without indexes. -/
theorem mem_locate_every_plainHost (scope node : Handle) :
    node ∈ rule.locate arena.host .every scope ↔
      node ∈ rule.locate arena.plainHost .every scope := by
  by_cases indexed : ∃ predicate ∈ rule.predicates, UsesClassIndex predicate
  · obtain ⟨predicate, isPredicate, uses⟩ := indexed
    cases starts : Rule.start? arena.host scope with
    | none =>
      have startsPlain : Rule.start? arena.plainHost scope = none := starts
      simp [Rule.mem_locate_iff, Rule.roots, starts, startsPlain]
    | some start =>
      exact mem_locate_every_plainHost_of_usesClassIndex links filed shallow leaves nonempty
        isPredicate uses starts node
  · have other : ∀ predicate ∈ rule.predicates, ¬ UsesClassIndex predicate :=
      fun predicate member uses => indexed ⟨predicate, member, uses⟩
    have sameRoots := roots_plainHost links filed shallow leaves nonempty other scope
    simp only [Rule.mem_locate_iff, Rule.mem_collect_every_iff, sameRoots, holds_plainHost]
    rfl

end Agreement

/-- Searches of both kinds return the same nodes with and without indexes. -/
theorem Reachable.locate_plainHost (reachable : arena.Reachable)
    (shallow : arena.outline.IsShallow) (leaves : arena.outline.HasLeafTexts) (rule : Rule)
    (nonempty : ∀ predicate ∈ rule.predicates,
      predicate.kind = .id → predicate.isWildcard = false → predicate.value ≠ "")
    (scope : Handle) :
    (∀ node, node ∈ rule.locateEvery arena.host scope ↔
        node ∈ rule.locateEvery arena.plainHost scope) ∧
      ∀ node, node ∈ rule.locateOutermost arena.host scope ↔
        node ∈ rule.locateOutermost arena.plainHost scope := by
  have links := reachable.hasLinks
  have forest := links.isShallowForest shallow
  have nonemptyIds : ∀ predicate ∈ rule.predicates,
      predicate.kind = .id → predicate.value ≠ "" := by
    intro predicate member kind empty
    refine nonempty predicate member kind ?_ empty
    rw [Predicate.isWildcard, empty]
    decide
  have every := mem_locate_every_plainHost links reachable.isFiled shallow leaves nonemptyIds scope
  refine ⟨every, fun node => ?_⟩
  unfold Rule.locateOutermost
  have indexed : arena.host.IsShallowForest := forest
  have plain : arena.plainHost.IsShallowForest := forest
  -- first matches are the outer layer of all matches, which agree
  rw [Rule.mem_locate_outermost_iff indexed, Rule.mem_locate_outermost_iff plain]
  simp only [every]
  rfl

/-- A rule that asks for a class and, above it, for a tag. -/
def wideInHtml : Rule :=
  ⟨[⟨"cl", "Wide", by decide⟩, inHtml]⟩

/-- In the small page the searches with indexes find what those without them do. -/
theorem locate_smallPage :
    2 ∈ wideInHtml.locateEvery smallPage.host 0 ∧
      2 ∈ wideInHtml.locateOutermost smallPage.host 0 := by
  have agree := reachable_smallPage.locate_plainHost isShallow_smallPage hasLeafTexts_smallPage
    wideInHtml (by decide) 0
  have scanned : 2 ∈ wideInHtml.locateEvery smallPage.plainHost 0 ∧
      2 ∈ wideInHtml.locateOutermost smallPage.plainHost 0 := by decide
  exact ⟨(agree.1 2).mpr scanned.1, (agree.2 2).mpr scanned.2⟩

end ElementSearch.Arena
