import ElementSearch.Proofs.Arena.Folding
import ElementSearch.Proofs.Arena.Lookup
import ElementSearch.Proofs.Arena.Preorder
import ElementSearch.Proofs.Search.Likeness

/-!
# Searching without letter case

A predicate that asks for an id, a class or a tag is folded by writing its value in small letters. In the folded arena
it passes at the nodes at which the predicate passes in the arena, and the lookups for it answer the same: the one for
ids and classes since the indexes use lowercase names, the one for tags since it compares without case of ASCII letters.
So searches return the same nodes in the same order (`locate_folded`), also where walks towards the root are cut off.
-/

namespace ElementSearch

open Text

namespace Predicate

/-- The predicate with its value in small letters, if it asks for an id, a class or a tag. -/
def folded (predicate : Predicate) : Predicate :=
  if predicate.kind.isIndexable then { predicate with value := asciiLowercase predicate.value }
  else predicate

variable {predicate : Predicate}

/-- Folding leaves the kind of a predicate alone. -/
theorem kind_folded : predicate.folded.kind = predicate.kind := by
  unfold folded
  split <;> rfl

/-- Folding leaves the scope of a predicate alone. -/
theorem scope_folded : predicate.folded.scope = predicate.scope := by
  unfold folded
  split <;> rfl

/-- The value of a lookup by id, class or tag is folded. -/
theorem value_folded {asked : PredicateKind} (asks : predicate.kind = asked)
    (indexable : asked.isIndexable = true) :
    predicate.folded.value = asciiLowercase predicate.value := by
  rw [folded, asks, if_pos indexable]

/-- The value of any other predicate is kept as written. -/
theorem value_folded_of_not {asked : PredicateKind} (asks : predicate.kind = asked)
    (other : asked.isIndexable = false) : predicate.folded.value = predicate.value := by
  rw [folded, asks, if_neg (Bool.eq_false_iff.mp other)]

/-- Folding neither makes nor unmakes a wildcard. -/
theorem isWildcard_folded : predicate.folded.isWildcard = predicate.isWildcard := by
  unfold folded
  split
  · exact isWildcard_asciiLowercase predicate.value
  · rfl

end Predicate

/-- The rule with its predicates folded. -/
def Rule.folded (rule : Rule) : Rule :=
  ⟨rule.predicates.map Predicate.folded⟩

namespace Arena

variable (arena : Arena)

/-- Folding an arena changes neither its links nor which of its nodes are seen. -/
theorem sharesLooks_folded : arena.host.SharesLooksOn arena.folded.host fun _ => True where
  toSharesLinksOn := sharesLinks_folded
  style {node} _ := by
    change (arena.folded.element? node).map _ = (arena.element? node).map _
    rw [element?_folded, Option.map_map]
    rfl
  boundingRect {node} _ := by
    change (arena.folded.element? node).bind _ = (arena.element? node).bind _
    rw [element?_folded, Option.bind_map]
    rfl
  clientSize {node} _ := by
    change (arena.folded.element? node).bind _ = (arena.element? node).bind _
    rw [element?_folded, Option.bind_map]
    rfl

section Tests

variable (node : Handle)

/-- The tag names of a folded arena are the folded tag names. -/
theorem tagName_folded :
    arena.folded.host.tagName node = (arena.host.tagName node).map asciiLowercase := by
  change (arena.folded.element? node).map _ = ((arena.element? node).map _).map _
  rw [element?_folded, Option.map_map, Option.map_map]
  rfl

/-- References are resolved in a folded arena as in the arena. -/
theorem resolve_folded (reference : String) :
    arena.folded.resolve node reference = arena.resolve node reference := by
  have base : arena.folded.baseUrl = arena.baseUrl := funext arena.baseUrl_folded
  rw [resolve, resolve, sharesLinks_folded.documentOf trivial, base]

/-- Sources keep their spelling. -/
theorem source_folded :
    arena.folded.host.attributeValue node "src" = arena.host.attributeValue node "src" ∧
      arena.folded.host.property node "src" = arena.host.property node "src" := by
  have plain : foldedValue "src" = id := funext fun _ => if_neg (by decide)
  constructor
  · change arena.folded.attributeValue node "src" = arena.attributeValue node "src"
    rw [attributeValue_folded, plain, Option.map_id]
    rfl
  · change arena.folded.property node "src" = arena.property node "src"
    unfold property
    rw [element?_folded]
    cases arena.element? node with
    | none => rfl
    | some element =>
      simp [element.attributeValue_folded, plain, resolve_folded]

variable (predicate : Predicate)

/-- An element passes a predicate in the arena exactly when it passes the folded one in the folded
arena. -/
theorem elementPasses_folded :
    predicate.folded.elementPasses arena.folded.host node = predicate.elementPasses arena.host node := by
  unfold Predicate.elementPasses
  rw [Predicate.kind_folded]
  cases kind : predicate.kind with
  | id =>
    have isId : foldedValue "id" = asciiLowercase := foldedValue_eq_asciiLowercase (.inl (by decide))
    simp only [property_id, attributeValue_folded, isId, Predicate.value_folded kind rfl,
      Option.any_map, PropertyValue.satisfies, satisfies_asciiLowercase]
  | className =>
    have isClass : foldedValue "class" = asciiLowercase :=
      foldedValue_eq_asciiLowercase (.inr (by decide))
    simp only [classesOf_host, attributeValue_folded, isClass, Predicate.value_folded kind rfl]
    cases arena.attributeValue node "class" with
    | none => simp only [Option.map_none, Option.elim_none, List.any_nil]
    | some text =>
      simp only [Option.map_some, Option.elim_some, words_asciiLowercase, List.any_map, Function.comp_def,
        satisfies_asciiLowercase]
  | tag =>
    simp only [tagName_folded, Predicate.value_folded kind rfl, Option.any_map,
      satisfies_asciiLowercase]
  | source =>
    obtain ⟨written, reflected⟩ := arena.source_folded node
    simp only [Predicate.hasSource, Predicate.sourceOf, written, reflected,
      Predicate.value_folded_of_not kind rfl]
  | width | height | visibility | unknown => rfl

/-- A node passes a predicate in the arena exactly when it passes the folded one in the folded
arena. -/
theorem passes_folded :
    predicate.folded.passes arena.folded.host node = predicate.passes arena.host node := by
  rw [Predicate.passes, Predicate.passes, elementPasses_folded,
    arena.sharesLooks_folded.isElement trivial]

end Tests

section Lookups

/-- Folding moves no node into another document. -/
theorem filter_documentOf_folded (document : Handle) (nodes : List Handle) :
    (nodes.filter fun node => arena.folded.outline.documentOf node = some document) =
      nodes.filter fun node => arena.outline.documentOf node = some document :=
  List.filter_congr fun node _ => by rw [sharesLinks_folded.documentOf trivial]

/-- Folding leaves the order of a document alone. -/
theorem inDocumentOrder_folded (nodes : List Handle) :
    arena.folded.inDocumentOrder nodes = arena.inDocumentOrder nodes :=
  inDocumentOrder_of_sharesLinks sharesLinks_folded fun _ _ => trivial

/-- The lookup by id finds the same element for the folded id in the folded arena. -/
theorem elementById_folded (document : Handle) (id : String) :
    arena.folded.elementById document (asciiLowercase id) = arena.elementById document id := by
  rw [elementById, elementById, ids_folded, lowercased_asciiLowercase, filter_documentOf_folded,
    inDocumentOrder_folded]

/-- The selector of a class finds the same elements for the folded name in the folded arena. -/
theorem selectByClass_folded (document : Handle) (name : String) :
    arena.folded.selectByClass document (asciiLowercase name) = arena.selectByClass document name := by
  rw [selectByClass, selectByClass, classes_folded, lowercased_asciiLowercase,
    filter_documentOf_folded, inDocumentOrder_folded]

/-- The lookup by class finds the same elements for the folded name in the folded arena. -/
theorem elementsByClassName_folded (scope : Handle) (name : String) :
    arena.folded.elementsByClassName scope (asciiLowercase name) = arena.elementsByClassName scope name := by
  have inside : ∀ node, arena.folded.outline.contains scope node = arena.outline.contains scope node :=
    fun node => sharesLinks_folded.contains scope trivial
  simp only [elementsByClassName, classes_folded, lowercased_asciiLowercase, inside,
    inDocumentOrder_folded]

/-- The lookup by tag finds the same elements for the folded tag in the folded arena. -/
theorem descendantsWithTag_folded (scope : Handle) (tag : String) :
    arena.folded.outline.descendantsWithTag scope (asciiLowercase tag) =
      arena.outline.descendantsWithTag scope tag := by
  have size : arena.folded.outline.size = arena.outline.size := arena.size_folded
  have every : (asciiLowercase tag == "*") = (tag == "*") := by
    rw [Bool.eq_iff_iff, beq_iff_eq, beq_iff_eq, asciiLowercase_eq_asterisk_iff]
  have name : ∀ node, arena.folded.outline.tagName node =
      (arena.outline.tagName node).map asciiLowercase := arena.tagName_folded
  simp only [Outline.descendantsWithTag, Outline.descendants, size, every, name, Option.any_map,
    sameIgnoringAsciiCase_asciiLowercase,
    sharesLinks_folded.descendantsWithin arena.outline.size trivial]

/-- The index proposes the same nodes for the folded predicate in the folded arena. -/
theorem hits?_folded (predicate : Predicate) (start : Handle) :
    predicate.folded.hits? arena.folded.host start = predicate.hits? arena.host start := by
  have document : arena.folded.host.documentOf start = arena.host.documentOf start :=
    sharesLinks_folded.documentOf trivial
  unfold Predicate.hits?
  rw [Predicate.isWildcard_folded, Predicate.kind_folded, document]
  split
  · rfl
  · cases kind : predicate.kind with
    | id =>
      have found : ∀ document, arena.folded.host.elementById document (asciiLowercase predicate.value) =
          arena.host.elementById document predicate.value :=
        fun document => arena.elementById_folded document predicate.value
      simp only [Predicate.value_folded kind rfl, found]
    | className =>
      have found : arena.folded.host.elementsByClassName start (asciiLowercase predicate.value) =
          arena.host.elementsByClassName start predicate.value :=
        congrArg some (arena.elementsByClassName_folded start predicate.value)
      have selected : ∀ document, arena.folded.host.selectByClass document (asciiLowercase predicate.value) =
          arena.host.selectByClass document predicate.value :=
        fun document => congrArg some (arena.selectByClass_folded document predicate.value)
      simp only [Predicate.classHits?, Predicate.value_folded kind rfl, found, selected, document]
    | tag =>
      simp only [Predicate.value_folded kind rfl]
      exact congrArg some (arena.descendantsWithTag_folded start predicate.value)
    | source | width | height | visibility | unknown => rfl

end Lookups

/-- The folded predicate is answered in the folded arena as the predicate is in the arena. -/
theorem answersAlike_folded (predicate : Predicate) :
    predicate.AnswersAlike arena.host arena.folded.host (fun _ => True) predicate.folded where
  kind := Predicate.kind_folded
  scope := Predicate.scope_folded
  value := Predicate.value_folded_of_not rfl
  passes _ := arena.passes_folded _ predicate
  hits? _ := arena.hits?_folded predicate _
  known_hit _ _ _ _ := trivial

/-- All predicates of a rule are answered alike by the arena and, folded, by the folded arena. -/
theorem answersAlike_folded_rule (rule : Rule) :
    rule.AnswersAlike arena.host arena.folded.host (fun _ => True) rule.folded :=
  List.forall₂_map_right_iff.mpr
    (List.forall₂_same.mpr fun predicate _ => arena.answersAlike_folded predicate)

/-- The roots of a rule are the roots of the folded rule in the folded arena. -/
theorem roots_folded (rule : Rule) (scope : Handle) :
    rule.folded.roots arena.folded.host scope = rule.roots arena.host scope :=
  (arena.answersAlike_folded_rule rule).roots arena.sharesLooks_folded trivial

/-- A search finds in the folded arena, for the folded rule, the same list as in the arena. -/
theorem locate_folded (rule : Rule) (traversal : Traversal) (scope : Handle) :
    rule.folded.locate arena.folded.host traversal scope = rule.locate arena.host traversal scope := by
  have size : arena.folded.host.size = arena.host.size := arena.size_folded
  refine (arena.answersAlike_folded_rule rule).locate arena.sharesLooks_folded (fun root => ?_) trivial
  rw [size, Rule.collect]

end Arena

end ElementSearch
