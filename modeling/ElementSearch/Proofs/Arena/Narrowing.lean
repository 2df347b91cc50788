import ElementSearch.Proofs.Arena.Preorder
import ElementSearch.Proofs.Arena.Searches
import ElementSearch.Proofs.Search.Narrowing

/-!
# Adding a predicate to a search of an arena

A search of an arena gets narrower with each predicate that is added if and only if it misses no match. It may miss
some, since the lookup for an id answers with the first element that has it. A rule of which every predicate asks for
a repeated id may then find less than the same rule with one more predicate that is not looked up by id. `IsReliable`
says which predicates keep a rule from missing anything.
-/

namespace ElementSearch.Arena

open Text

/-- Whether the candidates of a predicate cover all its matches below a node: there is no lookup for it, or the lookup
is for a class, or within ASCII, or for an id that the document has only once. -/
def IsReliable (arena : Arena) (start : Handle) (predicate : Predicate) : Prop :=
  predicate.isWildcard ∨ predicate.kind ≠ .id ∧ predicate.kind ≠ .tag ∨
    predicate.kind = .tag ∧ IsAscii predicate.value ∧ arena.HasAsciiTags ∨
      predicate.kind = .id ∧ predicate.value ≠ "" ∧
        ∀ document, arena.outline.documentOf start = some document →
          arena.HasIdOnce document predicate.value

variable {arena : Arena}

/-- The lookup for a reliable predicate misses no element. -/
theorem IsReliable.looksUpAll {start : Handle} {predicate : Predicate}
    (reliable : arena.IsReliable start predicate) (links : arena.HasLinks) (filed : arena.IsFiled)
    (shallow : arena.outline.IsShallow) : predicate.LooksUpAll arena.host start := by
  intro hits found
  obtain ⟨plain, lookup⟩ := hits?_cases found
  rcases reliable with wildcard | ⟨notId, notTag⟩ | ⟨kind, value, ascii⟩ | ⟨kind, value, once⟩
  · rw [plain] at wildcard
    cases wildcard
  · rcases lookup with ⟨kind, _⟩ | ⟨kind, _⟩ | ⟨kind, _⟩
    · exact absurd kind notId
    · exact looksUpAll_of_className links filed shallow kind start hits found
    · exact absurd kind notTag
  · exact looksUpAll_of_tag ascii value kind start hits found
  · exact looksUpAll_of_hasIdOnce links filed shallow kind value once hits found

/-- A search misses no match if a predicate of its rule is reliable. -/
theorem Reachable.isComplete_of_isReliable (reachable : arena.Reachable)
    (shallow : arena.outline.IsShallow) (leaves : arena.outline.HasLeafTexts) {rule : Rule}
    {scope : Handle} {predicate : Predicate} (isPredicate : predicate ∈ rule.predicates)
    (reliable : ∀ start, Rule.start? arena.host scope = some start →
      arena.IsReliable start predicate) :
    rule.IsComplete arena.host scope := by
  have links := reachable.hasLinks
  have filed := reachable.isFiled
  have forest : arena.host.IsShallowForest := links.isShallowForest shallow
  refine Rule.isComplete_of_covers forest leaves (looksUpElements filed links.isLinked) isPredicate
    fun start starts => ?_
  exact Predicate.covers_of_looksUpAll forest leaves
    ((reliable start starts).looksUpAll links filed shallow)

/-- A further predicate only narrows a search, whichever it is, if and only if the search misses no match. It misses
none if one of its predicates is reliable. -/
theorem Reachable.narrows_exact (reachable : arena.Reachable) (shallow : arena.outline.IsShallow)
    (leaves : arena.outline.HasLeafTexts) (rule : Rule) (scope : Handle) :
    (rule.Narrows arena.host scope ↔ rule.IsComplete arena.host scope) ∧
      ((∃ predicate ∈ rule.predicates, ∀ start, Rule.start? arena.host scope = some start →
          arena.IsReliable start predicate) →
        rule.IsComplete arena.host scope) := by
  have links := reachable.hasLinks
  have forest : arena.host.IsShallowForest := links.isShallowForest shallow
  refine ⟨Rule.narrows_iff_isComplete forest leaves
    (looksUpElements reachable.isFiled links.isLinked), ?_⟩
  rintro ⟨predicate, isPredicate, reliable⟩
  exact reachable.isComplete_of_isReliable shallow leaves isPredicate reliable

section Twins

/-- A page with two elements that have the same id. -/
def twins : Arena :=
  empty.after
    [.createDocument none, .addElement 0 "html" [], .addElement 1 "p" [("id", "a")],
      .addElement 1 "p" [("id", "a")]]

theorem reachable_twins : twins.Reachable := ⟨_, rfl⟩

theorem size_twins : twins.size = 4 := by decide

theorem isShallow_twins : twins.outline.IsShallow :=
  reachable_twins.hasLinks.isShallow_of_older (by decide) (by decide)

theorem hasLeafTexts_twins : twins.outline.HasLeafTexts := by
  refine hasLeafTexts_of_all ?_
  rw [size_twins]
  decide

theorem isProperty_id : IsProperty "id" := by decide

/-- The predicate that asks for the id. -/
def withId : Predicate :=
  ⟨"id", "a", isProperty_id⟩

/-- The predicate that asks for the tag. -/
def withTag : Predicate :=
  ⟨"tag", "p", isProperty_tag⟩

/-- A rule by tag looks up reliably from every start, since it never asks for an id. -/
theorem isReliable_twins (start : Handle) : twins.IsReliable start withTag := by
  have value : IsAscii withTag.value := by decide
  refine .inr (.inr (.inl ⟨rfl, value, hasAsciiTags_of_all ?_⟩))
  rw [size_twins]
  decide

/-- The lookup for the id answers with the first of the two elements. -/
theorem candidates_twins : withId.candidates twins.host 1 = [2] := by
  have holders : (twins.ids.nodes (lowercased "a")).filter
      (fun node => twins.outline.documentOf node = some 0) = [2, 3] := by decide +kernel
  have ordered : twins.inDocumentOrder [2, 3] = [2, 3] :=
    inDocumentOrder_eq (.refl _) (by unfold KeyLt; decide)
  have first : twins.elementById 0 "a" = some 2 := by
    rw [elementById, holders, ordered]
    rfl
  have hits : withId.hits? twins.host 1 = some [2] := by
    have isIn : twins.host.documentOf 1 = some 0 := by decide
    change (twins.host.documentOf 1).map (fun document => (twins.elementById document "a").toList) = _
    rw [isIn, Option.map_some, first]
    rfl
  rw [Predicate.candidates, hits]
  decide

/-- Asking for the tag is reliable, so whatever is asked for besides only narrows the search. With the id it still
finds the second element. -/
theorem narrows_twins :
    Rule.Narrows twins.host ⟨[withTag]⟩ 0 ∧
      3 ∈ Rule.locateEvery twins.host ⟨[withTag]⟩ 0 := by
  have isExact := reachable_twins.narrows_exact isShallow_twins hasLeafTexts_twins ⟨[withTag]⟩ 0
  have complete := isExact.2
    ⟨withTag, List.mem_singleton_self _, fun start _ => isReliable_twins start⟩
  exact ⟨isExact.1.mpr complete, complete 1 rfl 3 (by decide) (by decide)⟩

/-- Asking for the id alone misses the second element, which asking for the tag as well brings back. -/
theorem not_narrows_twins :
    twins.Reachable ∧ twins.outline.IsShallow ∧ twins.outline.HasLeafTexts ∧
      3 ∈ (Rule.and ⟨[withId]⟩ withTag).locateEvery twins.host 0 ∧
      3 ∉ Rule.locateEvery twins.host ⟨[withId]⟩ 0 ∧ ¬ Rule.Narrows twins.host ⟨[withId]⟩ 0 := by
  have links := reachable_twins.hasLinks
  have forest : twins.host.IsShallowForest := links.isShallowForest isShallow_twins
  have isPredicate : withTag ∈ (Rule.and ⟨[withId]⟩ withTag).predicates := by decide
  have complete : (Rule.and ⟨[withId]⟩ withTag).IsComplete twins.host 0 :=
    reachable_twins.isComplete_of_isReliable isShallow_twins hasLeafTexts_twins isPredicate
      fun start _ => isReliable_twins start
  have found : 3 ∈ (Rule.and ⟨[withId]⟩ withTag).locateEvery twins.host 0 :=
    complete 1 rfl 3 (by decide) (by decide)
  have missed : 3 ∉ Rule.locateEvery twins.host ⟨[withId]⟩ 0 := by
    intro member
    obtain ⟨_, _, predicate, isPredicate, candidate, isCandidate, encloses⟩ :=
      (Rule.mem_locate_every_iff_exists_candidate forest hasLeafTexts_twins rfl fun other _ =>
        looksUpElements reachable_twins.isFiled links.isLinked other 1).mp member
    rw [List.mem_singleton.mp isPredicate, candidates_twins] at isCandidate
    rw [List.mem_singleton.mp isCandidate] at encloses
    have apart : twins.outline.contains 2 3 = false := by decide
    rw [isShallow_twins.contains_iff.mpr encloses] at apart
    cases apart
  refine ⟨reachable_twins, isShallow_twins, hasLeafTexts_twins, found, missed, fun narrows => ?_⟩
  exact missed (narrows withTag found)

end Twins

end ElementSearch.Arena
