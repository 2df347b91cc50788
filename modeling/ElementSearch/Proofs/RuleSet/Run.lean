import ElementSearch.Proofs.Arena.Lookup
import ElementSearch.Proofs.RuleSet.Accepted
import ElementSearch.Proofs.Snapshot.Depth

/-!
# Running a rule set on a loaded page

A rule set that asks for frames is searched for in every document of a loaded page. What a search in one document
finds belongs to that document, so searches in different documents have nothing in common: dropping repetitions
drops nothing, and each outcome is the concatenation of exact searches.
-/

namespace ElementSearch

open Text

/-- Whether all rules ask for tags in ASCII. -/
def RuleSetDefinition.HasAsciiTags (definition : RuleSetDefinition) : Prop :=
  ∀ rule ∈ definition.rules, ∀ compiled, rule.compile = .ok compiled →
    ∀ predicate ∈ compiled.predicates, predicate.kind = .tag → IsAscii predicate.value

namespace Arena

/-- The elements at which a rule holds. -/
def Matches (arena : Arena) (rule : Rule) (node : Handle) : Prop :=
  arena.kind node = .element ∧ rule.holds arena.host node

/-- Whether an outcome is what a definition asks for in some documents: the searches in them one behind the
other. -/
structure IsOutcome (arena : Arena) (documents : List Handle) (definition : RuleDefinition)
    (rule : Rule) (outcome : Outcome Handle) : Prop where
  compiles : definition.compile = .ok rule
  name : outcome.name = definition.name
  mode : outcome.mode = definition.mode
  nodes : outcome.nodes = documents.flatMap (rule.search arena.host outcome.mode)
  nodup : outcome.nodes.Nodup
  grouped : ∀ document ∈ documents, ∀ node ∈ rule.search arena.host outcome.mode document,
    arena.outline.documentOf node = some document
  every : outcome.mode = .all → ∀ node, node ∈ outcome.nodes ↔ arena.Matches rule node
  outermost : outcome.mode = .first → ∀ node, node ∈ outcome.nodes ↔
    arena.Matches rule node ∧
      ∀ above, arena.Matches rule above → ¬ arena.outline.IsAncestor above node

namespace HangsFrom

variable {arena : Arena} {outermost : Nat} (hanging : arena.HangsFrom outermost)
  {rule : Rule} {mode : Mode} {document node : Handle}
include hanging

/-- A search in a document starts from its root element. -/
theorem start?_eq (isDocument : arena.kind document = .document) :
    Rule.start? arena.host document = some (Nat.succ document) := by
  obtain ⟨owner, page⟩ := hanging.isPage isDocument
  rw [Rule.start?, if_pos (show arena.host.kind document = .document from isDocument)]
  exact page.documentElement

/-- A search lists no node twice, in either mode. -/
theorem nodup_search : (rule.search arena.host mode document).Nodup := by
  cases mode with
  | first => exact Rule.nodup_locate .outermost document
  | all => exact Rule.nodup_locate .every document
  | roots =>
    refine (Rule.pairwise_roots hanging.isShallow document).imp fun {first second} apart => ?_
    rintro rfl
    exact apart.1 (.refl first)

/-- What is found by searches each of which is exact in its own document is found by all of them together. -/
theorem mem_searchAll_iff {picked : Prop} (isMatch : picked → arena.Matches rule node)
    (isExact : ∀ {document}, arena.kind document = .document →
      (node ∈ rule.search arena.host mode document ↔
        picked ∧ arena.outline.documentOf node = some document)) :
    node ∈ rule.searchAll arena.host mode (outermost :: arena.host.frameDocuments outermost) ↔
      picked := by
  rw [Rule.searchAll, mem_distinct, List.mem_flatMap]
  constructor
  · rintro ⟨document, member, found⟩
    exact ((isExact (hanging.mem_documents_iff.mp member)).mp found).1
  · intro isPicked
    have lt := arena.lt_size_of_kind_eq (isMatch isPicked).1 nofun
    obtain ⟨document, member, isIn⟩ := hanging.exists_mem_documents lt
    exact ⟨document, member, (isExact (hanging.mem_documents_iff.mp member)).mpr ⟨isPicked, isIn⟩⟩

variable (filed : arena.IsFiled) (isDocument : arena.kind document = .document)
include filed isDocument

/-- What a search in a document returns, in any mode, belongs to the document. -/
theorem documentOf_of_mem_search (member : node ∈ rule.search arena.host mode document) :
    arena.outline.documentOf node = some document := by
  have forest := hanging.isShallowForest
  have starts := hanging.start?_eq isDocument
  have elements : ∀ predicate ∈ rule.predicates,
      predicate.LooksUpElements arena.host (Nat.succ document) :=
    fun predicate _ => looksUpElements filed hanging.links.isLinked predicate _
  have inside : node ∈ arena.outline.subtree (Nat.succ document) := by
    cases mode with
    | first => exact Rule.mem_subtree_of_mem_locate forest hanging.hasLeafTexts starts elements member
    | all => exact Rule.mem_subtree_of_mem_locate forest hanging.hasLeafTexts starts elements member
    | roots =>
      have isRoot : node ∈ rule.roots arena.host document := member
      rw [Rule.roots, starts, Option.elim_some] at isRoot
      exact Rule.mem_subtree_of_mem_rootsFrom forest hanging.hasLeafTexts elements isRoot
  exact ((hanging.mem_subtree_iff isDocument).mp inside).2

variable (distinct : arena.HasDistinctIds) (ascii : arena.HasAsciiTags)
  (nonempty : rule.predicates ≠ [])
  (asciiValues : ∀ predicate ∈ rule.predicates, predicate.kind = .tag → IsAscii predicate.value)
include distinct ascii nonempty asciiValues

/-- A search for every match in a document returns the elements of the document at which the rule holds. -/
theorem mem_search_all_iff :
    node ∈ rule.search arena.host .all document ↔
      arena.Matches rule node ∧ arena.outline.documentOf node = some document := by
  have starts := hanging.start?_eq isDocument
  refine (mem_locateEvery_iff hanging.links filed hanging.isShallow hanging.hasLeafTexts distinct
    ascii nonempty asciiValues starts).trans ?_
  rw [hanging.mem_subtree_iff isDocument, Matches]
  exact and_right_comm

/-- A search for the outermost matches keeps those that lie below no other match. -/
theorem mem_search_first_iff :
    node ∈ rule.search arena.host .first document ↔
      (arena.Matches rule node ∧
        ∀ above, arena.Matches rule above → ¬ arena.outline.IsAncestor above node) ∧
      arena.outline.documentOf node = some document := by
  have every : ∀ {other : Handle}, other ∈ rule.locate arena.host .every document ↔
      arena.Matches rule other ∧ arena.outline.documentOf other = some document :=
    hanging.mem_search_all_iff filed isDocument distinct ascii nonempty asciiValues
  refine (Rule.mem_locate_outermost_iff hanging.isShallowForest).trans ?_
  rw [every]
  constructor
  · rintro ⟨⟨isMatch, isIn⟩, top⟩
    refine ⟨⟨isMatch, fun above isAbove ancestor => ?_⟩, isIn⟩
    have same := hanging.links.isLinked.documentOf_eq_of_encloses hanging.isShallow ancestor.encloses
    exact top above (every.mpr ⟨isAbove, same.trans isIn⟩) ancestor
  · rintro ⟨⟨isMatch, top⟩, isIn⟩
    exact ⟨⟨isMatch, isIn⟩, fun other found => top other (every.mp found).1⟩

omit isDocument distinct ascii nonempty asciiValues in
/-- Searches in different documents have nothing in common, so there are no repetitions to drop. -/
theorem nodup_flatMap_search {documents : List Handle} (nodup : documents.Nodup)
    (areDocuments : ∀ document ∈ documents, arena.kind document = .document) :
    (documents.flatMap (rule.search arena.host mode)).Nodup := by
  refine List.nodup_flatMap.mpr ⟨fun _ _ => hanging.nodup_search, ?_⟩
  refine nodup.imp_of_mem fun {first second} isFirst isSecond differ => ?_
  intro node inFirst inSecond
  have ofFirst := hanging.documentOf_of_mem_search filed (areDocuments first isFirst) inFirst
  have ofSecond := hanging.documentOf_of_mem_search filed (areDocuments second isSecond) inSecond
  exact differ (Option.some.inj (ofFirst.symm.trans ofSecond))

end HangsFrom

section Run

variable {arena : Arena} {outermost : Nat} (hanging : arena.HangsFrom outermost)
  (filed : arena.IsFiled) (distinct : arena.HasDistinctIds) (ascii : arena.HasAsciiTags)
include hanging filed distinct ascii

/-- A compiled rule that is searched for in all documents has the outcome that its definition asks for. -/
theorem HangsFrom.isOutcome {definition : RuleDefinition} {compiled : CompiledRule}
    (gives : definition.Gives compiled)
    (asciiValues : ∀ predicate ∈ compiled.rule.predicates,
      predicate.kind = .tag → IsAscii predicate.value) :
    arena.IsOutcome (outermost :: arena.host.frameDocuments outermost) definition compiled.rule
      ⟨compiled.name, compiled.mode, compiled.rule.searchAll arena.host compiled.mode
        (outermost :: arena.host.frameDocuments outermost)⟩ := by
  obtain ⟨name, mode, compiles⟩ := gives
  have nonempty := RuleDefinition.predicates_ne_nil compiles
  have areDocuments : ∀ document ∈ outermost :: arena.host.frameDocuments outermost,
      arena.kind document = .document := fun document => hanging.mem_documents_iff.mp
  have nodup : ((outermost :: arena.host.frameDocuments outermost).flatMap
      (compiled.rule.search arena.host compiled.mode)).Nodup :=
    hanging.nodup_flatMap_search filed hanging.nodup_documents areDocuments
  constructor
  · exact compiles
  · exact name
  · exact mode
  -- no node is in two documents, so dropping repetitions drops nothing
  · exact distinct_eq_self nodup
  · exact nodup_distinct _
  · intro document member node found
    exact hanging.documentOf_of_mem_search filed (areDocuments document member) found
  · intro isAll node
    change compiled.mode = .all at isAll
    rw [isAll]
    refine hanging.mem_searchAll_iff id fun isDocument => ?_
    exact hanging.mem_search_all_iff filed isDocument distinct ascii nonempty asciiValues
  · intro isFirst node
    change compiled.mode = .first at isFirst
    rw [isFirst]
    refine hanging.mem_searchAll_iff And.left fun isDocument => ?_
    exact hanging.mem_search_first_iff filed isDocument distinct ascii nonempty asciiValues

end Run

end Arena

/-- A rule set that asks for frames, run on a loaded page. -/
theorem RuleSetDefinition.run_exact {text rules : String} {arena : Arena} {document : Handle}
    {definition : RuleSetDefinition} (loaded : Snapshot.load text = .ok (arena, document))
    (distinct : arena.HasDistinctIds) (ascii : arena.HasAsciiTags)
    (accepted : RuleSetDefinition.load rules = .ok definition)
    (withFrames : definition.includeFrames = true) (asciiValues : definition.HasAsciiTags) :
    (document :: arena.host.frameDocuments document).Nodup ∧
      (∀ node, node ∈ document :: arena.host.frameDocuments document ↔
        arena.kind node = .document) ∧
      ∃ ruleSet, definition.compile = .ok ruleSet ∧
        List.Forall₂ (fun rule outcome => ∃ compiled,
          arena.IsOutcome (document :: arena.host.frameDocuments document) rule compiled outcome)
          definition.rules (ruleSet.run arena.host document) := by
  obtain ⟨_, hanging⟩ := Snapshot.hangsFrom_of_load loaded
  have filed := (Snapshot.reachable_of_load loaded).isFiled
  obtain ⟨ruleSet, compiles, header, gives⟩ := compile_of_load accepted
  refine ⟨hanging.nodup_documents, fun node => hanging.mem_documents_iff, ruleSet, compiles, ?_⟩
  have searchesFrames : ruleSet.includeFrames = true := by
    rw [show ruleSet.includeFrames = definition.includeFrames from
      congrArg RuleSetHeader.includeFrames header]
    exact withFrames
  have isDocument : arena.host.kind document = .document := hanging.page.kind
  unfold RuleSet.run scopesFrom
  simp only [searchesFrames, isDocument, decide_true, Bool.and_self, if_true]
  have givesAscii := (List.forall₂_and_left definition.rules ruleSet.rules).mpr ⟨asciiValues, gives⟩
  refine List.forall₂_map_right_iff.mpr (givesAscii.imp ?_)
  rintro rule compiled ⟨isAscii, isGiven⟩
  exact ⟨compiled.rule, hanging.isOutcome filed distinct ascii isGiven
    (isAscii compiled.rule isGiven.2.2)⟩

section FramedPage

/-- A page that is a frame around a page with an id. -/
def framedPageText : String :=
  "[null,[\"iframe\",\x7b\x7d,null,null,null,[],[null,[\"p\",\x7b\"id\":\"a\"\x7d]]]]"

def framedPage : Arena :=
  ((Snapshot.load framedPageText).toOption.map Prod.fst).getD .empty

/-- A rule set that asks for frames, and for every paragraph in them. -/
def paragraphs : RuleSetDefinition :=
  ⟨⟨"", none, true⟩, [⟨"paragraphs", some "tag=P", [], .all⟩]⟩

def paragraphsText : String :=
  "meta.include_frames = true\n[[rules]]\nname = \"paragraphs\"\nrule = \"tag=P\"\nmode = \"all\""

theorem load_framedPage : Snapshot.load framedPageText = .ok (framedPage, 0) :=
  Snapshot.load_eq_ok (by decide +kernel)

theorem load_paragraphs : RuleSetDefinition.load paragraphsText = .ok paragraphs := by
  decide +kernel

theorem size_framedPage : framedPage.size = 4 := by
  decide +kernel

theorem hasDistinctIds_framedPage : framedPage.HasDistinctIds := by
  refine @Arena.hasDistinctIds_of_single _ 3 ?_
  rw [size_framedPage]
  decide +kernel

theorem hasAsciiTags_framedPage : framedPage.HasAsciiTags := by
  refine Arena.hasAsciiTags_of_all ?_
  rw [size_framedPage]
  decide +kernel

/-- The rule that asks for paragraphs. -/
def paragraph : Rule :=
  ⟨[⟨"tag", "P", by decide⟩]⟩

theorem eq_paragraph {definition : RuleDefinition} {rule : Rule}
    (member : definition ∈ paragraphs.rules) (compiles : definition.compile = .ok rule) :
    rule = paragraph := by
  obtain rfl := List.mem_singleton.mp member
  have given : RuleDefinition.compile ⟨"paragraphs", some "tag=P", [], .all⟩ = .ok paragraph := by
    decide +kernel
  exact Except.ok.inj (compiles.symm.trans given)

/-- On the framed page the one paragraph matches and nothing else. -/
theorem matches_paragraph_iff {node : Handle} :
    framedPage.Matches paragraph node ↔ node = 3 := by
  have only : ∀ node < 4, framedPage.kind node = .element ∧
      paragraph.holds framedPage.host node ↔ node = 3 := by decide +kernel
  constructor
  · intro isMatch
    have lt := framedPage.lt_size_of_kind_eq isMatch.1 nofun
    rw [size_framedPage] at lt
    exact (only node lt).mp isMatch
  · rintro rfl
    exact (only 3 (by decide)).mpr rfl

end FramedPage

/-- On the framed page the rule set finds the one paragraph, which is inside the frame. -/
theorem run_framedPage : ∃ ruleSet, paragraphs.compile = .ok ruleSet ∧
    ∃ outcome ∈ ruleSet.run framedPage.host 0, ∀ node, node ∈ outcome.nodes ↔ node = 3 := by
  have asciiValues : paragraphs.HasAsciiTags := by
    intro definition member rule compiles
    rw [eq_paragraph member compiles]
    decide
  obtain ⟨_, _, ruleSet, compiles, outcomes⟩ := RuleSetDefinition.run_exact load_framedPage
    hasDistinctIds_framedPage hasAsciiTags_framedPage load_paragraphs rfl asciiValues
  obtain ⟨outcome, _, ⟨rule, isOutcome⟩, _, answers⟩ := List.forall₂_cons_left_iff.mp outcomes
  have isParagraph := eq_paragraph List.mem_cons_self isOutcome.compiles
  refine ⟨ruleSet, compiles, outcome, answers ▸ List.mem_cons_self, fun node => ?_⟩
  rw [isOutcome.every isOutcome.mode node, isParagraph]
  exact matches_paragraph_iff

end ElementSearch
