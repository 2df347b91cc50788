import ElementSearch.Arena.Host
import ElementSearch.Proofs.Arena.Filing
import ElementSearch.Proofs.Arena.Links
import ElementSearch.Proofs.Search.Coverage

/-!
# What an arena looks up

A lookup of an arena for a predicate finds elements only. The lookup for a class misses none. The one for a tag
compares within ASCII and the one for an id answers with a single element, so they miss none where all tags are
ASCII and where no other element of the document has the id.
-/

namespace ElementSearch.Arena

open Text

/-- Ids are not empty, and those of one document differ up to letter case. -/
structure HasDistinctIds (arena : Arena) : Prop where
  nonempty : ∀ node, arena.attributeValue node "id" ≠ some ""
  unique : ∀ {document first second : Handle} {id other : String},
    arena.outline.documentOf first = some document →
    arena.outline.documentOf second = some document →
    arena.attributeValue first "id" = some id → arena.attributeValue second "id" = some other →
    lowercased id = lowercased other → first = second

/-- At most one element of a document has an id, up to letter case. -/
def HasIdOnce (arena : Arena) (document : Handle) (wanted : String) : Prop :=
  ∀ {first second : Handle} {id other : String},
    arena.outline.documentOf first = some document →
    arena.outline.documentOf second = some document →
    arena.attributeValue first "id" = some id → arena.attributeValue second "id" = some other →
    lowercased id = lowercased wanted → lowercased other = lowercased wanted → first = second

/-- All tags are ASCII. -/
def HasAsciiTags (arena : Arena) : Prop :=
  ∀ {node element}, arena.element? node = some element → IsAscii element.tag

variable {arena : Arena}

/-- Ids differ where only one node has one. -/
theorem hasDistinctIds_of_single {only : Handle} (single : ∀ node < arena.size,
    ∀ id ∈ arena.attributeValue node "id", node = only ∧ id ≠ "") : arena.HasDistinctIds := by
  have isOnly : ∀ {node id}, arena.attributeValue node "id" = some id → node = only ∧ id ≠ "" :=
    fun present => single _ (arena.lt_size_of_attributeValue_eq_some present) _ present
  constructor
  · intro node present
    exact (isOnly present).2 rfl
  · intro document first second id other _ _ firstId secondId _
    rw [(isOnly firstId).1, (isOnly secondId).1]

/-- Tags in ASCII are checked on the nodes of the arena alone. -/
theorem hasAsciiTags_of_all (all : ∀ node < arena.size,
    ∀ element ∈ arena.element? node, IsAscii element.tag) : arena.HasAsciiTags :=
  fun present => all _ (arena.lt_size_of_element?_eq_some present) _ present

/-- Leaf texts are checked on the nodes of the arena alone. -/
theorem hasLeafTexts_of_all (all : ∀ node < arena.size,
    arena.kind node = .text → arena.children node = []) : arena.outline.HasLeafTexts :=
  fun node isText => all node (arena.lt_size_of_kind_eq isText nofun) isText

/-- Putting nodes in document order neither adds nor drops any. -/
theorem inDocumentOrder_perm (nodes : List Handle) : (arena.inDocumentOrder nodes).Perm nodes := by
  have sorted := (List.mergeSort_perm (nodes.map fun node => (arena.orderKey node, node))
    fun left right => keyLe left.1 right.1).map (·.2)
  rwa [List.map_map, show (nodes.map ((·.2) ∘ fun node => (arena.orderKey node, node))) = nodes from
    List.map_id nodes] at sorted

/-- Sorting a list of nodes in document order keeps its members. -/
theorem mem_inDocumentOrder_iff {nodes : List Handle} {node : Handle} :
    node ∈ arena.inDocumentOrder nodes ↔ node ∈ nodes :=
  (inDocumentOrder_perm nodes).mem_iff

/-- Only elements have attributes. -/
theorem isElement_of_attributeValue {node : Handle} {name value : String}
    (present : arena.attributeValue node name = some value) : arena.host.isElement node := by
  obtain ⟨element, isElement, _⟩ := Option.bind_eq_some_iff.mp present
  have kind : arena.kind node = .element := by
    rw [← element?_isSome_iff, isElement]
    rfl
  exact decide_eq_true kind

/-- The property `id` is the attribute as written. -/
theorem property_id (node : Handle) :
    arena.host.property node "id" = (arena.attributeValue node "id").map .text := by
  change arena.property node "id" = _
  unfold property attributeValue
  cases arena.element? node <;> rfl

section Tests

variable {predicate : Predicate} (plain : predicate.isWildcard = false) {node : Handle}
include plain

/-- What it takes to pass a test for an id. -/
theorem passes_id_iff (kind : predicate.kind = .id) :
    predicate.passes arena.host node ↔
      ∃ id, arena.attributeValue node "id" = some id ∧
        lowercased id = lowercased predicate.value := by
  unfold Predicate.passes Predicate.elementPasses
  rw [kind, Bool.and_eq_true]
  simp only [property_id, Option.any_map, Option.any_eq_true, PropertyValue.satisfies,
    satisfies_iff plain]
  constructor
  · exact And.right
  · rintro ⟨id, present, same⟩
    exact ⟨isElement_of_attributeValue present, id, present, same⟩

omit plain in
/-- The property that reflects a missing class attribute holds no words. -/
theorem classesOf_host (node : Handle) :
    Predicate.classesOf arena.host node = (arena.attributeValue node "class").elim [] words := by
  have carried : arena.host.attributeValue node "class" = arena.attributeValue node "class" := rfl
  have reflected : arena.host.property node "className" = arena.property node "className" := rfl
  unfold Predicate.classesOf
  rw [carried, reflected]
  cases present : arena.attributeValue node "class" with
  | some classes => rfl
  | none =>
    unfold attributeValue at present
    unfold property
    cases isElement : arena.element? node with
    | none => rfl
    | some element =>
      rw [isElement, Option.bind_some] at present
      simp [present, words_empty]

/-- What it takes to pass a test for a class. -/
theorem passes_className_iff (kind : predicate.kind = .className) :
    predicate.passes arena.host node ↔
      ∃ text, arena.attributeValue node "class" = some text ∧
        ∃ word ∈ words text, lowercased word = lowercased predicate.value := by
  unfold Predicate.passes Predicate.elementPasses
  rw [kind, Bool.and_eq_true]
  simp only [classesOf_host, List.any_eq_true, satisfies_iff plain]
  constructor
  · rintro ⟨_, word, member, same⟩
    cases present : arena.attributeValue node "class" with
    | none => simp [present] at member
    | some text =>
      rw [present] at member
      exact ⟨text, rfl, word, member, same⟩
  · rintro ⟨text, present, word, member, same⟩
    refine ⟨isElement_of_attributeValue present, word, ?_, same⟩
    rw [present]
    exact member

/-- What it takes to pass a test for a tag. -/
theorem passes_tag_iff (kind : predicate.kind = .tag) :
    predicate.passes arena.host node ↔
      ∃ element, arena.element? node = some element ∧
        lowercased element.tag = lowercased predicate.value := by
  have tagName : arena.host.tagName node = (arena.element? node).map (·.tag) := rfl
  unfold Predicate.passes Predicate.elementPasses
  rw [kind, Bool.and_eq_true]
  simp only [tagName, Option.any_map, Option.any_eq_true, satisfies_iff plain]
  constructor
  · exact And.right
  · rintro ⟨element, present, same⟩
    refine ⟨decide_eq_true ?_, element, present, same⟩
    rw [show arena.host.kind node = arena.kind node from rfl, ← element?_isSome_iff, present]
    rfl

end Tests

section Hits

variable {predicate : Predicate} {start : Handle} {hits : List Handle}

/-- The three lookups of an arena. -/
theorem hits?_cases (found : predicate.hits? arena.host start = some hits) :
    predicate.isWildcard = false ∧
      (predicate.kind = .id ∧ (∃ document, arena.outline.documentOf start = some document ∧
          hits = (arena.elementById document predicate.value).toList) ∨
        predicate.kind = .className ∧ hits = arena.elementsByClassName start predicate.value ∨
        predicate.kind = .tag ∧ hits = arena.outline.descendantsWithTag start predicate.value) := by
  unfold Predicate.hits? at found
  split at found
  · cases found
  · next notWildcard =>
    refine ⟨Bool.not_eq_true _ ▸ notWildcard, ?_⟩
    cases kind : predicate.kind with
    | id =>
      rw [kind] at found
      obtain ⟨document, isDocument, rfl⟩ := Option.map_eq_some_iff.mp found
      exact .inl ⟨rfl, document, isDocument, rfl⟩
    | className =>
      rw [kind] at found
      exact .inr (.inl ⟨rfl, (Option.some.inj found).symm⟩)
    | tag =>
      rw [kind] at found
      exact .inr (.inr ⟨rfl, (Option.some.inj found).symm⟩)
    | _ => simp [kind] at found

/-- The answer to a lookup by id is a node of the document that is filed under the id. -/
theorem of_elementById_eq_some {document node : Handle} {id : String}
    (found : arena.elementById document id = some node) :
    node ∈ arena.ids.nodes (lowercased id) ∧ arena.outline.documentOf node = some document := by
  have member := List.mem_of_mem_head? found
  rw [mem_inDocumentOrder_iff, List.mem_filter, decide_eq_true_iff] at member
  exact member

variable (links : arena.HasLinks) (filed : arena.IsFiled)

include filed in
/-- Every lookup of an arena finds elements only. -/
theorem looksUpElements (linked : arena.outline.IsLinked) (predicate : Predicate)
    (start : Handle) : predicate.LooksUpElements arena.host start := by
  intro hits found node member
  obtain ⟨_, ⟨_, document, _, rfl⟩ | ⟨_, rfl⟩ | ⟨_, rfl⟩⟩ := hits?_cases found
  · have isFound := of_elementById_eq_some (Option.mem_toList.mp member)
    obtain ⟨id, present, _⟩ := filed.mem_ids_iff.mp isFound.1
    exact isElement_of_attributeValue present
  · rw [elementsByClassName, mem_inDocumentOrder_iff, List.mem_filter] at member
    obtain ⟨text, present, _⟩ := filed.mem_classes_iff.mp member.1
    exact isElement_of_attributeValue present
  · exact (linked.of_mem_descendantsWithin (List.mem_of_mem_filter member)).1

variable (shallow : arena.outline.IsShallow)
include links filed shallow

/-- The lookup for a class misses no element. -/
theorem looksUpAll_of_className (kind : predicate.kind = .className) (start : Handle) :
    predicate.LooksUpAll arena.host start := by
  intro hits found node below passes
  obtain ⟨plain, ⟨other, _⟩ | ⟨_, rfl⟩ | ⟨other, _⟩⟩ := hits?_cases found
  · cases kind.symm.trans other
  · have ancestor : arena.outline.IsAncestor start node :=
      (links.isLinked.of_mem_descendantsWithin below).2
    have notStart : node ≠ start := by
      rintro rfl
      exact shallow.isAcyclic node ancestor
    have inside := shallow.contains_iff.mpr ancestor.encloses
    have isFiled := filed.mem_classes_iff.mpr ((passes_className_iff plain kind).mp passes)
    rw [elementsByClassName, mem_inDocumentOrder_iff, List.mem_filter]
    exact ⟨isFiled, by simp [notStart, inside]⟩
  · cases kind.symm.trans other

/-- The lookup for an id misses no element if no other element of the document has the id. -/
theorem looksUpAll_of_hasIdOnce (kind : predicate.kind = .id) (nonempty : predicate.value ≠ "")
    {start : Handle} (once : ∀ document, arena.outline.documentOf start = some document →
      arena.HasIdOnce document predicate.value) :
    predicate.LooksUpAll arena.host start := by
  intro hits found node below passes
  obtain ⟨plain, ⟨_, document, isDocument, rfl⟩ | ⟨other, _⟩ | ⟨other, _⟩⟩ := hits?_cases found
  · obtain ⟨id, present, same⟩ := (passes_id_iff plain kind).mp passes
    have ancestor := (links.isLinked.of_mem_descendantsWithin below).2
    have inDocument : arena.outline.documentOf node = some document :=
      (links.isLinked.documentOf_eq_of_encloses shallow ancestor.encloses).symm.trans isDocument
    have isId : id ≠ "" := by
      rintro rfl
      exact nonempty ((eq_empty_iff_of_lowercased_eq same).mp rfl)
    have isFiled := filed.mem_ids_iff.mpr ⟨id, present, isId, same⟩
    -- whatever the lookup answers is filed under the same id, so it is the node
    have onlyNode : ∀ other, arena.elementById document predicate.value = some other →
        other = node := by
      intro other isFound
      obtain ⟨otherFiled, otherInDocument⟩ := of_elementById_eq_some isFound
      obtain ⟨otherId, otherPresent, _, otherSame⟩ := filed.mem_ids_iff.mp otherFiled
      exact once document isDocument otherInDocument inDocument otherPresent present otherSame same
    have answered : (arena.elementById document predicate.value).isSome := by
      rw [elementById, List.isSome_head?]
      refine List.ne_nil_of_mem (mem_inDocumentOrder_iff.mpr (List.mem_filter.mpr ⟨isFiled, ?_⟩))
      exact decide_eq_true inDocument
    obtain ⟨other, isFound⟩ := Option.isSome_iff_exists.mp answered
    rw [isFound, onlyNode other isFound]
    exact List.mem_singleton_self node
  · cases kind.symm.trans other
  · cases kind.symm.trans other

/-- Where ids differ, the lookup for an id misses no element. -/
theorem looksUpAll_of_id (distinct : arena.HasDistinctIds) (kind : predicate.kind = .id)
    (start : Handle) : predicate.LooksUpAll arena.host start := by
  intro hits found node below passes
  have nonempty : predicate.value ≠ "" := by
    intro empty
    obtain ⟨id, present, same⟩ := (passes_id_iff (hits?_cases found).1 kind).mp passes
    obtain rfl := (eq_empty_iff_of_lowercased_eq same).mpr empty
    exact distinct.nonempty node present
  refine looksUpAll_of_hasIdOnce links filed shallow kind nonempty ?_ hits found node below passes
  intro document _ first second id other inFirst inSecond firstId secondId same otherSame
  exact distinct.unique inFirst inSecond firstId secondId (same.trans otherSame.symm)

omit links filed shallow in
/-- Within ASCII, the lookup for a tag misses no element. -/
theorem looksUpAll_of_tag (ascii : arena.HasAsciiTags) (asciiValue : IsAscii predicate.value)
    (kind : predicate.kind = .tag) (start : Handle) :
    predicate.LooksUpAll arena.host start := by
  intro hits found node below passes
  obtain ⟨plain, ⟨other, _⟩ | ⟨other, _⟩ | ⟨_, rfl⟩⟩ := hits?_cases found
  · cases kind.symm.trans other
  · cases kind.symm.trans other
  · obtain ⟨element, present, same⟩ := (passes_tag_iff plain kind).mp passes
    have sameTag := (sameIgnoringAsciiCase_iff (ascii present) asciiValue).mpr same
    refine List.mem_filter.mpr ⟨below, ?_⟩
    rw [show arena.outline.tagName node = some element.tag by simp [outline, present]]
    simp [sameTag]

/-- Where ids differ and tags are ASCII, no lookup misses an element. -/
theorem looksUpAll (distinct : arena.HasDistinctIds) (ascii : arena.HasAsciiTags)
    (asciiValue : predicate.kind = .tag → IsAscii predicate.value) (start : Handle) :
    predicate.LooksUpAll arena.host start := by
  intro hits found
  obtain ⟨_, ⟨kind, _⟩ | ⟨kind, _⟩ | ⟨kind, _⟩⟩ := hits?_cases found
  · exact looksUpAll_of_id links filed shallow distinct kind start hits found
  · exact looksUpAll_of_className links filed shallow kind start hits found
  · exact looksUpAll_of_tag ascii (asciiValue kind) kind start hits found

/-- Where ids differ and tags are ASCII, a search for every match returns the nodes of the subtree at which
the rule holds. -/
theorem mem_locateEvery_iff (leaves : arena.outline.HasLeafTexts)
    (distinct : arena.HasDistinctIds) (ascii : arena.HasAsciiTags) {rule : Rule}
    (nonempty : rule.predicates ≠ [])
    (asciiValues : ∀ predicate ∈ rule.predicates, predicate.kind = .tag → IsAscii predicate.value)
    {scope : Handle} (starts : Rule.start? arena.host scope = some start) {node : Handle} :
    node ∈ rule.locateEvery arena.host scope ↔
      node ∈ arena.outline.subtree start ∧ rule.holds arena.host node := by
  have forest : arena.host.IsShallowForest := links.isShallowForest shallow
  obtain ⟨predicate, isPredicate⟩ := List.exists_mem_of_ne_nil _ nonempty
  have complete := looksUpAll links filed shallow distinct ascii
    (asciiValues predicate isPredicate) start
  have covers := Predicate.covers_of_looksUpAll forest leaves complete
  have elements : ∀ other ∈ rule.predicates, other.LooksUpElements arena.host start :=
    fun other _ => looksUpElements filed links.isLinked other start
  exact Rule.mem_locate_every_iff forest leaves starts elements isPredicate covers

end Hits

end ElementSearch.Arena
