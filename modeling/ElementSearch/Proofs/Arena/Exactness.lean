import ElementSearch.Proofs.Arena.Lookup

/-!
# Searches of an arena are exact

Where ids differ, tags are ASCII and walks towards the root are long enough, a search for every match returns
the nodes of the searched subtree at which the rule holds, each once. Neither the lookups nor the reduction to
outermost roots loses a match, in whatever scopes the predicates of the rule look.
-/

namespace ElementSearch.Arena

open Text

section SmallPage

/-- A page with one element below its root, and a text. -/
def smallPage : Arena :=
  Arena.empty.after
    [.createDocument none, .addElement 0 "html" [],
      .addElement 1 "div" [("id", "Main"), ("class", "card wide")], .addText 2 "text"]

theorem reachable_smallPage : smallPage.Reachable := ⟨_, rfl⟩

theorem size_smallPage : smallPage.size = 4 := by decide

theorem isShallow_smallPage : smallPage.outline.IsShallow :=
  reachable_smallPage.hasLinks.isShallow_of_older (by decide) (by decide)

theorem hasLeafTexts_smallPage : smallPage.outline.HasLeafTexts := by
  refine hasLeafTexts_of_all ?_
  rw [size_smallPage]
  decide

theorem hasDistinctIds_smallPage : smallPage.HasDistinctIds := by
  refine @hasDistinctIds_of_single _ 2 ?_
  rw [size_smallPage]
  decide

theorem hasAsciiTags_smallPage : smallPage.HasAsciiTags := by
  refine hasAsciiTags_of_all ?_
  rw [size_smallPage]
  decide

end SmallPage

variable {arena : Arena}

/-- A search for every match is complete and exact. -/
theorem Reachable.locateEvery_exact (reachable : arena.Reachable)
    (shallow : arena.outline.IsShallow) (leaves : arena.outline.HasLeafTexts)
    (distinct : arena.HasDistinctIds) (ascii : arena.HasAsciiTags) (rule : Rule)
    (nonempty : rule.predicates ≠ [])
    (asciiValues : ∀ predicate ∈ rule.predicates, predicate.kind = .tag → IsAscii predicate.value)
    (scope : Handle) :
    (rule.locateEvery arena.host scope).Nodup ∧
      ∀ node, node ∈ rule.locateEvery arena.host scope ↔
        ∃ start, Rule.start? arena.host scope = some start ∧
          node ∈ arena.outline.subtree start ∧ rule.holds arena.host node := by
  refine ⟨Rule.nodup_locate .every scope, fun node => ?_⟩
  cases starts : Rule.start? arena.host scope with
  | none => simp [Rule.locateEvery, Rule.mem_locate_iff, Rule.roots, starts]
  | some start =>
    simp only [Option.some.injEq, exists_eq_left']
    exact mem_locateEvery_iff reachable.hasLinks reachable.isFiled shallow leaves distinct ascii
      nonempty asciiValues starts

/-- The predicate that asks for the root of a page above an element. -/
def inHtml : Predicate :=
  ⟨"pptag", "HTML", by decide⟩

/-- A rule that asks for an id and, above it, for a tag. -/
def mainInHtml : Rule :=
  ⟨[⟨"id", "main", by decide⟩, inHtml]⟩

/-- The search for the rule from the document of the small page finds the element with the id only. -/
theorem locateEvery_smallPage :
    2 ∈ mainInHtml.locateEvery smallPage.host 0 ∧ 1 ∉ mainInHtml.locateEvery smallPage.host 0 := by
  have isExact := reachable_smallPage.locateEvery_exact isShallow_smallPage hasLeafTexts_smallPage
    hasDistinctIds_smallPage hasAsciiTags_smallPage mainInHtml (by decide) (by decide) 0
  have found : Rule.start? smallPage.host 0 = some 1 ∧ 2 ∈ smallPage.outline.subtree 1 ∧
      mainInHtml.holds smallPage.host 2 := by decide
  have unmatched : ¬ mainInHtml.holds smallPage.host 1 := by decide
  constructor
  · exact (isExact.2 2).mpr ⟨1, found⟩
  · intro member
    obtain ⟨start, _, _, holds⟩ := (isExact.2 1).mp member
    exact unmatched holds

end ElementSearch.Arena
