import ElementSearch.Proofs.Arena.Narrowing

/-!
# Searching for one id or one tag

A rule of one predicate has only the candidates of that predicate, so its search is exact as far as one lookup is. An
id is filed unless it is empty, and tags are looked up within ASCII, while values are compared by full folding. So two
provisos are needed: that an empty id, if it is asked for, is not to be found below the start (`AvoidsEmptyIds`), and
that no tag there needs more than ASCII to be folded (`AvoidsForeignTags`). Neither is needed where the search starts
from a match. Ids must differ, but may be empty, and tags and values may be any text.

A document is searched from its root element, so what lies in a further root element is out of reach.
-/

namespace ElementSearch.Arena

open Text

/-- The ids of a document differ up to letter case. One of them may be empty. -/
def HasUniqueIds (arena : Arena) : Prop :=
  ∀ {document first second : Handle} {id other : String},
    arena.outline.documentOf first = some document →
    arena.outline.documentOf second = some document →
    arena.attributeValue first "id" = some id → arena.attributeValue second "id" = some other →
    lowercased id = lowercased other → first = second

/-- Whether no element can be missed below a node because its id is empty: another id is asked for, the node is in no
document and all below it is searched, the search starts from a match, or there is no such element. -/
def AvoidsEmptyIds (arena : Arena) (predicate : Predicate) (start : Handle) : Prop :=
  predicate.value ≠ "" ∨ arena.outline.documentOf start = none ∨
    predicate.passesAtBorder arena.host start ∨
      ∀ node ∈ arena.outline.descendants start, arena.attributeValue node "id" ≠ some ""

/-- Whether no element can be missed below a node because its tag is the wanted one by full folding only: the search
starts from a match, or each element with the wanted tag lies in one that has it within ASCII. -/
def AvoidsForeignTags (arena : Arena) (predicate : Predicate) (start : Handle) : Prop :=
  predicate.passesAtBorder arena.host start ∨
    ∀ node ∈ arena.outline.descendants start, ∀ tag, arena.outline.tagName node = some tag →
      lowercased tag = lowercased predicate.value →
      ∃ above ∈ arena.outline.descendants start, arena.outline.Encloses above node ∧
        ∃ known, arena.outline.tagName above = some known ∧
          sameIgnoringAsciiCase known predicate.value

variable {arena : Arena}

/-- Unique ids are checked on the nodes of the arena alone, two by two. -/
theorem hasUniqueIds_of_all
    (all : ∀ first < arena.size, ∀ second < arena.size, ∀ id ∈ arena.attributeValue first "id",
      ∀ other ∈ arena.attributeValue second "id", lowercased id = lowercased other → first = second) :
    arena.HasUniqueIds :=
  fun _ _ firstId secondId same =>
    all _ (arena.lt_size_of_attributeValue_eq_some firstId) _
      (arena.lt_size_of_attributeValue_eq_some secondId) _ firstId _ secondId same

/-- With unique ids, every id is held at most once in every document. -/
theorem HasUniqueIds.hasIdOnce (unique : arena.HasUniqueIds) (document : Handle) (wanted : String) :
    arena.HasIdOnce document wanted :=
  fun inFirst inSecond firstId secondId same otherSame =>
    unique inFirst inSecond firstId secondId (same.trans otherSame.symm)

section Lookups

variable {predicate : Predicate} {start : Handle}

/-- Where ids differ, the lookup for an id finds enough, unless an empty id is asked for. -/
theorem looksUpEnough_of_id (links : arena.HasLinks) (filed : arena.IsFiled)
    (shallow : arena.outline.IsShallow) (unique : arena.HasUniqueIds) (kind : predicate.kind = .id)
    (avoids : arena.AvoidsEmptyIds predicate start) : predicate.LooksUpEnough arena.host start := by
  intro hits found
  by_cases nonempty : predicate.value ≠ ""
  · have complete : predicate.LooksUpAll arena.host start :=
      looksUpAll_of_hasIdOnce links filed shallow kind nonempty fun document _ =>
        unique.hasIdOnce document predicate.value
    exact complete.looksUpEnough hits found
  · obtain ⟨plain, ⟨_, document, isIn, _⟩ | ⟨other, _⟩ | ⟨other, _⟩⟩ := hits?_cases found
    · rcases avoids with wanted | detached | border | none
      · exact absurd wanted nonempty
      · cases detached.symm.trans isIn
      · exact .inl border
      · refine .inr fun node below passes => ?_
        obtain ⟨id, present, same⟩ := (passes_id_iff plain kind).mp passes
        obtain rfl := (eq_empty_iff_of_lowercased_eq same).mpr (not_not.mp nonempty)
        exact absurd present (none node below)
    · cases kind.symm.trans other
    · cases kind.symm.trans other

/-- The lookup for a tag finds enough, unless the tag of an element needs more than ASCII to be folded. -/
theorem looksUpEnough_of_tag (kind : predicate.kind = .tag)
    (avoids : arena.AvoidsForeignTags predicate start) :
    predicate.LooksUpEnough arena.host start := by
  intro hits found
  refine avoids.imp_right fun inAscii node below passes => ?_
  obtain ⟨plain, ⟨other, _⟩ | ⟨other, _⟩ | ⟨_, rfl⟩⟩ := hits?_cases found
  · cases kind.symm.trans other
  · cases kind.symm.trans other
  · obtain ⟨element, present, same⟩ := (passes_tag_iff plain kind).mp passes
    have tagged : arena.outline.tagName node = some element.tag := by simp [outline, present]
    obtain ⟨above, aboveBelow, encloses, known, aboveTagged, sameTag⟩ :=
      inAscii node below element.tag tagged same
    refine ⟨above, List.mem_filter.mpr ⟨aboveBelow, ?_⟩, aboveBelow, encloses⟩
    simp [aboveTagged, sameTag]

end Lookups

/-- A search for one predicate is exact if the lookup for it finds enough. -/
theorem Reachable.isExact_of_looksUpEnough (reachable : arena.Reachable)
    (shallow : arena.outline.IsShallow) (leaves : arena.outline.HasLeafTexts) {predicate : Predicate}
    (scope : Handle) (enough : ∀ start, Rule.start? arena.host scope = some start →
      predicate.LooksUpEnough arena.host start) :
    Rule.IsExact arena.host ⟨[predicate]⟩ scope := by
  have links := reachable.hasLinks
  have forest : arena.host.IsShallowForest := links.isShallowForest shallow
  refine Rule.isExact_of_covers forest leaves (looksUpElements reachable.isFiled links.isLinked)
    (List.mem_singleton_self predicate) fun start starts => ?_
  exact Predicate.covers_of_looksUpEnough forest leaves (enough start starts)

/-- Whether a search for a rule does not return a node at or below its scope at which the rule holds. -/
def Misses (arena : Arena) (rule : Rule) (scope node : Handle) : Prop :=
  node ∈ arena.outline.subtree scope ∧ rule.holds arena.host node ∧
    node ∉ rule.locateEvery arena.host scope

section Strays

/-- A page with two root elements. In the first one there are an empty id and two tags with letters beyond ASCII, the
Kelvin sign being one; the second one has an id of its own. -/
def strays : Arena :=
  empty.after
    [.createDocument none, .addElement 0 "html" [], .addElement 1 "É" [("id", "")],
      .addElement 0 "p" [("id", "a")], .addElement 2 "k" [], .addElement 4 "\u212A" []]

theorem reachable_strays : strays.Reachable := ⟨_, rfl⟩

theorem size_strays : strays.size = 6 := by decide

theorem isShallow_strays : strays.outline.IsShallow :=
  reachable_strays.hasLinks.isShallow_of_older (by decide) (by decide)

theorem hasLeafTexts_strays : strays.outline.HasLeafTexts := by
  refine hasLeafTexts_of_all ?_
  rw [size_strays]
  decide

theorem hasUniqueIds_strays : strays.HasUniqueIds := by
  refine hasUniqueIds_of_all ?_
  rw [size_strays]
  decide

end Strays

/-- A search for one id, in whatever scope, is exact unless an empty id is asked for. -/
theorem Reachable.isExact_id (reachable : arena.Reachable) (shallow : arena.outline.IsShallow)
    (leaves : arena.outline.HasLeafTexts) (unique : arena.HasUniqueIds) {predicate : Predicate}
    (kind : predicate.kind = .id) (scope : Handle)
    (avoids : ∀ start, Rule.start? arena.host scope = some start →
      arena.AvoidsEmptyIds predicate start) :
    Rule.IsExact arena.host ⟨[predicate]⟩ scope :=
  reachable.isExact_of_looksUpEnough shallow leaves scope fun start starts =>
    looksUpEnough_of_id reachable.hasLinks reachable.isFiled shallow unique kind (avoids start starts)

/-- The predicate that asks for an empty id above a node. -/
def belowEmptyId : Predicate :=
  ⟨"ppid", "", by decide⟩

/-- From the element with the empty id, a search finds what is below that id, and not the element itself. -/
theorem isExact_id_strays :
    5 ∈ Rule.locateEvery strays.host ⟨[belowEmptyId]⟩ 2 ∧
      2 ∉ Rule.locateEvery strays.host ⟨[belowEmptyId]⟩ 2 := by
  have border : belowEmptyId.passesAtBorder strays.host 2 := by decide
  have avoids : ∀ start, Rule.start? strays.host 2 = some start →
      strays.AvoidsEmptyIds belowEmptyId start := by
    intro start starts
    cases starts
    exact .inr (.inr (.inl border))
  have isExact := reachable_strays.isExact_id isShallow_strays hasLeafTexts_strays
    hasUniqueIds_strays rfl 2 avoids
  have unmatched : ¬ Rule.holds strays.host ⟨[belowEmptyId]⟩ 2 := by decide
  refine ⟨(isExact 5).mpr ⟨2, rfl, by decide, by decide⟩, fun member => ?_⟩
  obtain ⟨_, _, _, holds⟩ := (isExact 2).mp member
  exact unmatched holds

/-- The predicate that asks for an empty id. -/
def withEmptyId : Predicate :=
  ⟨"id", "", isProperty_id⟩

/-- An id in the second root element is missed from the document, and an empty id from the first root element. -/
theorem misses_ids_strays :
    strays.Reachable ∧ strays.outline.IsShallow ∧ strays.outline.HasLeafTexts ∧
      strays.HasUniqueIds ∧ strays.Misses ⟨[withId]⟩ 0 3 ∧ strays.Misses ⟨[withEmptyId]⟩ 1 2 := by
  refine ⟨reachable_strays, isShallow_strays, hasLeafTexts_strays, hasUniqueIds_strays, ?_⟩
  unfold Misses
  decide +kernel

/-- A search for one tag, in whatever scope, is exact unless some tag needs more than ASCII to be folded. -/
theorem Reachable.isExact_tag (reachable : arena.Reachable) (shallow : arena.outline.IsShallow)
    (leaves : arena.outline.HasLeafTexts) {predicate : Predicate} (kind : predicate.kind = .tag)
    (scope : Handle) (avoids : ∀ start, Rule.start? arena.host scope = some start →
      arena.AvoidsForeignTags predicate start) :
    Rule.IsExact arena.host ⟨[predicate]⟩ scope :=
  reachable.isExact_of_looksUpEnough shallow leaves scope fun start starts =>
    looksUpEnough_of_tag kind (avoids start starts)

/-- The predicate that asks for a tag of one letter. -/
def withLetter : Predicate :=
  ⟨"tag", "K", isProperty_tag⟩

/-- The Kelvin sign is a `k` by full folding only, but the element with that tag lies in one with the letter. -/
theorem isExact_tag_strays :
    5 ∈ Rule.locateEvery strays.host ⟨[withLetter]⟩ 0 ∧
      2 ∉ Rule.locateEvery strays.host ⟨[withLetter]⟩ 0 := by
  have inLetter : ∀ node ∈ strays.outline.descendants 1, ∀ tag ∈ strays.outline.tagName node,
      lowercased tag = lowercased "K" → strays.outline.contains 4 node := by decide +kernel
  have avoids : ∀ start, Rule.start? strays.host 0 = some start →
      strays.AvoidsForeignTags withLetter start := by
    intro start starts
    cases starts
    refine .inr fun node below tag tagged same => ⟨4, by decide, ?_, "k", rfl, by decide⟩
    exact isShallow_strays.contains_iff.mp (inLetter node below tag tagged same)
  have isExact := reachable_strays.isExact_tag isShallow_strays hasLeafTexts_strays rfl 0
    avoids
  have unmatched : ¬ Rule.holds strays.host ⟨[withLetter]⟩ 2 := by decide
  refine ⟨(isExact 5).mpr ⟨1, rfl, by decide, by decide⟩, fun member => ?_⟩
  obtain ⟨_, _, _, holds⟩ := (isExact 2).mp member
  exact unmatched holds

/-- The predicate that asks for a tag with a letter beyond ASCII. -/
def withForeignTag : Predicate :=
  ⟨"tag", "é", isProperty_tag⟩

/-- The second root element is missed from the document, and the tag with a letter beyond ASCII from the first root
element. -/
theorem misses_tags_strays :
    strays.Reachable ∧ strays.outline.IsShallow ∧ strays.outline.HasLeafTexts ∧
      strays.Misses ⟨[withTag]⟩ 0 3 ∧ strays.Misses ⟨[withForeignTag]⟩ 1 2 := by
  refine ⟨reachable_strays, isShallow_strays, hasLeafTexts_strays, ?_⟩
  unfold Misses
  decide +kernel

end ElementSearch.Arena
