import ElementSearch.Proofs.Arena.Filing
import ElementSearch.Proofs.Snapshot.Depth
import ElementSearch.Proofs.Snapshot.Outcome
import ElementSearch.Search.Distinct
import Mathlib.Data.List.Induction

/-!
# Reading a page back

What a page looks like to who walks through an arena is the judgement `Shows`: it follows the children of a node and
the document inside it, compares what each node answers with what the page records, and notes in which order it comes
to the nodes. Only the names of attributes are not kept as they are written: of names that differ in the case of
letters the last one counts (`Element.Gives`).

* A page whose base URLs can be read is built. Its nodes are new, each has the handle behind that of the one before,
  and reading them from its document gives the page again (`buildInto_shows`).
* What is read from a text has its attributes in order, so a loaded page shows what was read (`shows_of_load`).
-/

namespace ElementSearch

open Text

namespace Element

/-- Whether attributes give a name a value: that of the greatest name, in the order of characters, among those that are
the same up to the case of ASCII letters. -/
def Gives (entries : List (String × String)) (name value : String) : Prop :=
  ∃ key, (key, value) ∈ entries ∧ sameIgnoringAsciiCase key name ∧
    ∀ entry ∈ entries, sameIgnoringAsciiCase entry.1 name → entry.1 ≤ key

/-- Whether attributes stand in ascending order of their names, which differ. -/
def HasSortedNames (entries : List (String × String)) : Prop :=
  entries.Pairwise fun entry later => entry.1 < later.1

/-- The attributes of an element after entries are set one after the other. -/
def setEntries (entries : List (String × String)) : List (String × String) :=
  entries.foldl (fun known (name, value) => setEntry (asciiLowercase name) value known) []

/-- The last entry of a list is set last, over an earlier one of the same name. -/
theorem setEntries_concat (entries : List (String × String)) (name value : String) :
    setEntries (entries ++ [(name, value)]) =
      setEntry (asciiLowercase name) value (setEntries entries) := by
  simp [setEntries]

/-- All entries are set under folded names. -/
theorem hasFoldedNames_setEntries (entries : List (String × String)) :
    HasFoldedNames (setEntries entries) := by
  induction entries using List.reverseRecOn with
  | nil => simp [setEntries, HasFoldedNames]
  | append_singleton entries entry ih =>
    rw [setEntries_concat]
    exact ih.setEntry entry.1 entry.2

/-- Of names that are the same up to the case of letters, the one that is set last counts. In ascending order that is
the greatest one. -/
theorem valueIn_setEntries_iff {entries : List (String × String)} (sorted : HasSortedNames entries)
    (name value : String) :
    valueIn (setEntries entries) name = some value ↔ Gives entries name value := by
  -- from the end: the last entry is set last, and its name is greater than those before it
  induction entries using List.reverseRecOn with
  | nil => simp [setEntries, valueIn, Gives]
  | append_singleton entries entry ih =>
    obtain ⟨last, held⟩ := entry
    obtain ⟨sorted, -, apart⟩ := List.pairwise_append.mp sorted
    have below : ∀ earlier ∈ entries, earlier.1 < last :=
      fun earlier member => apart earlier member _ (List.mem_singleton_self _)
    rw [setEntries_concat, (hasFoldedNames_setEntries entries).valueIn_setEntry]
    by_cases same : asciiLowercase name = asciiLowercase last
    · have isName : sameIgnoringAsciiCase last name := by simp [sameIgnoringAsciiCase, same]
      rw [if_pos same]
      constructor
      · intro eq
        obtain rfl := Option.some.inj eq
        refine ⟨last, by simp, isName, fun entry member _ => ?_⟩
        rcases List.mem_append.mp member with earlier | here
        · exact String.not_lt.mp (String.lt_asymm (below entry earlier))
        · obtain rfl := List.mem_singleton.mp here
          exact String.le_refl _
      · rintro ⟨key, member, -, greatest⟩
        have le : last ≤ key := greatest (last, held) (by simp) isName
        rcases List.mem_append.mp member with earlier | here
        · exact absurd (below _ earlier) (String.not_lt.mpr le)
        · rw [(Prod.mk.inj (List.mem_singleton.mp here)).2]
    · have isOther : ¬ sameIgnoringAsciiCase last name := fun isName =>
        same (beq_iff_eq.mp isName).symm
      rw [if_neg same, ih sorted]
      constructor
      · rintro ⟨key, member, isName, greatest⟩
        refine ⟨key, List.mem_append_left _ member, isName, fun entry among spelled => ?_⟩
        rcases List.mem_append.mp among with earlier | here
        · exact greatest entry earlier spelled
        · rw [List.mem_singleton.mp here] at spelled
          exact absurd spelled isOther
      · rintro ⟨key, member, isName, greatest⟩
        refine ⟨key, ?_, isName, fun entry among => greatest entry (List.mem_append_left _ among)⟩
        rcases List.mem_append.mp member with earlier | here
        · exact earlier
        · rw [(Prod.mk.inj (List.mem_singleton.mp here)).1] at isName
          exact absurd isName isOther

end Element

namespace Snapshot

open Arena

/-- Whether a node answers with what is recorded about an element. -/
structure ShowsFields (arena : Arena) (node : Handle) (fields : ElementFields) : Prop where
  kind : arena.kind node = .element
  tagName : arena.host.tagName node = some fields.tag
  attributeValue : ∀ name value,
    arena.host.attributeValue node name = some value ↔ Element.Gives fields.attributes name value
  /-- An element without a style has an empty one. -/
  style : arena.host.style node = some (fields.style.getD ⟨"", ""⟩)
  boundingRect : arena.host.boundingRect node = fields.rect
  clientSize : arena.host.clientSize node = fields.clientSize

mutual

/-- Whether reading an arena from a document on gives a page, and comes to some nodes in this order. -/
inductive Shows (arena : Arena) : (owner : Option Handle) → (document : Handle) → Snapshot →
    (visited : List Handle) → Prop
  | page {owner : Option Handle} {document first : Handle} {written : Option String}
    {root : ElementSnapshot} {visited : List Handle}
    (kind : arena.kind document = .document)
    (parent : arena.parent document = none)
    (frameOwner : arena.frameOwner document = owner)
    (baseUrl : arena.baseUrl document = readUrl? written)
    (children : arena.children document = [first])
    (below : ShowsElement arena document first root visited) :
    Shows arena owner document (.mk written root) (document :: visited)

/-- Whether reading on from an element gives what it records, its children, and then the page inside it. -/
inductive ShowsElement (arena : Arena) : (above node : Handle) → ElementSnapshot →
    (visited : List Handle) → Prop
  | plain {above node : Handle} {fields : ElementFields} {children : List ChildSnapshot}
    {visited : List Handle}
    (shows : ShowsFields arena node fields)
    (parent : arena.parent node = some above)
    (below : ShowsChildren arena node (arena.children node) children visited)
    (inside : arena.host.contentDocument node = none) :
    ShowsElement arena above node (.mk fields children none) (node :: visited)
  | frame {above node document : Handle} {fields : ElementFields}
    {children : List ChildSnapshot} {page : Snapshot} {visited others : List Handle}
    (shows : ShowsFields arena node fields)
    (parent : arena.parent node = some above)
    (below : ShowsChildren arena node (arena.children node) children visited)
    (inside : arena.host.contentDocument node = some document)
    (further : Shows arena (some node) document page others) :
    ShowsElement arena above node (.mk fields children (some page)) (node :: (visited ++ others))

/-- Whether reading on from nodes gives children of an element, in order. -/
inductive ShowsChildren (arena : Arena) : (above : Handle) → (nodes : List Handle) →
    List ChildSnapshot → (visited : List Handle) → Prop
  | nil {above : Handle} : ShowsChildren arena above [] [] []
  | text {above node : Handle} {nodes : List Handle} {text : String}
    {rest : List ChildSnapshot} {visited : List Handle}
    (content : arena.content? node = some (.text text))
    (parent : arena.parent node = some above)
    (children : arena.children node = [])
    (behind : ShowsChildren arena above nodes rest visited) :
    ShowsChildren arena above (node :: nodes) (.text text :: rest) (node :: visited)
  | element {above node : Handle} {nodes : List Handle} {child : ElementSnapshot}
    {rest : List ChildSnapshot} {visited others : List Handle}
    (shows : ShowsElement arena above node child visited)
    (behind : ShowsChildren arena above nodes rest others) :
    ShowsChildren arena above (node :: nodes) (.element child :: rest) (visited ++ others)

end

/-- Whether the attributes of every element of a page stand in ascending order of their names, which differ. -/
def HasSortedNames (snapshot : Snapshot) : Prop :=
  ∀ fields, .element fields ∈ parts snapshot → Element.HasSortedNames fields.attributes

/-- Whether every base URL of a page, and of the pages inside it, can be read. -/
def HasReadableUrls (snapshot : Snapshot) : Prop :=
  ∀ written, .document (some written) ∈ parts snapshot → (Url.parse written).toOption.isSome

section Reading

variable {arena : Arena}

/-- An element that was built from fields answers with them, whatever page is inside it. -/
theorem showsFields_of_record? {node : Handle} {parent : Option Handle} {children : List Handle}
    {fields : ElementFields} {frame : Option Handle}
    (sorted : Element.HasSortedNames fields.attributes)
    (record : arena.record? node =
      some ⟨parent, children, .element { fields.element with frame }⟩) :
    ShowsFields arena node fields := by
  have element : arena.element? node = some { fields.element with frame } :=
    element?_of_record? record
  refine ⟨kind_of_record? record, ?_, fun name value => ?_, ?_, ?_, ?_⟩
  · simp [host, outline, element, ElementFields.element]
  · have known : arena.host.attributeValue node name =
        Element.valueIn (Element.setEntries fields.attributes) name := by
      simp [host, outline, Arena.attributeValue, element, Element.attributeValue, Element.valueIn,
        Element.setEntries, ElementFields.element]
    rw [known, Element.valueIn_setEntries_iff sorted]
  · simp [host, element, ElementFields.element, Style.unset]
  · simp [host, element, ElementFields.element]
  · simp [host, element, ElementFields.element]

/-- The content document of a node is read off the element of its record. -/
theorem contentDocument_of_record? {node : Handle} {parent : Option Handle}
    {children : List Handle} {element : Element}
    (record : arena.record? node = some ⟨parent, children, .element element⟩) :
    arena.host.contentDocument node = element.frame := by
  have known : arena.element? node = some element := element?_of_record? record
  simp [host, known]

mutual

/-- Where a page lies, reading gives it again, and comes to its nodes one behind the other. -/
theorem LiesAt.shows : {snapshot : Snapshot} → {owner : Option Handle} → {document : Nat} →
    LiesAt arena owner document snapshot → snapshot.HasSortedNames →
    Shows arena owner document snapshot (List.range' document (count snapshot))
  | .mk baseUrl root, owner, document, lies, sorted => by
    obtain ⟨record, below⟩ := lies
    have shown := below.shows fun fields member => sorted fields (List.mem_cons_of_mem _ member)
    rw [count, Nat.add_comm, List.range'_succ]
    exact .page (kind_of_record? record) (parent_of_record? record) (frameOwner_of_record? record)
      (by simp [Arena.baseUrl, content?, record, Content.baseUrl?]) (children_of_record? record) shown

/-- Where an element lies, the arena shows it, with the handles given out in order. -/
theorem ElementLiesAt.shows : {snapshot : ElementSnapshot} → {parent node : Nat} →
    ElementLiesAt arena parent node snapshot →
    (∀ fields, .element fields ∈ elementParts snapshot → Element.HasSortedNames fields.attributes) →
    ShowsElement arena parent node snapshot (List.range' node (countElement snapshot))
  | .mk fields children none, parent, node, lies, sorted => by
    obtain ⟨record, below, -⟩ := lies
    have shown := below.shows fun fields member => sorted fields (by simp [elementParts, member])
    have childrenAre := children_of_record? record
    have size : countElement (.mk fields children none) = countChildren children + 1 := by
      simp [countElement, Nat.add_comm]
    rw [size, List.range'_succ]
    refine .plain (showsFields_of_record? (sorted fields ?_) record) (parent_of_record? record)
      (childrenAre ▸ shown) (contentDocument_of_record? record)
    exact List.mem_cons_self
  | .mk fields children (some page), parent, node, lies, sorted => by
    obtain ⟨record, below, inside⟩ := lies
    have shown := below.shows fun fields member => sorted fields (by simp [elementParts, member])
    have further := inside.shows fun fields member => sorted fields (by simp [elementParts, member])
    have childrenAre := children_of_record? record
    have size : countElement (.mk fields children (some page)) =
        countChildren children + count page + 1 := by
      simp only [countElement]
      omega
    rw [size, List.range'_succ, ← List.range'_append_1]
    refine .frame (showsFields_of_record? (sorted fields ?_) record) (parent_of_record? record)
      (childrenAre ▸ shown) (contentDocument_of_record? record) further
    exact List.mem_cons_self

/-- Where a list of children lies, the arena shows it, with the handles given out in order. -/
theorem ChildrenLieAt.shows : {children : List ChildSnapshot} → {parent first : Nat} →
    ChildrenLieAt arena parent first children →
    (∀ fields, .element fields ∈ childrenParts children →
      Element.HasSortedNames fields.attributes) →
    ShowsChildren arena parent (handles first children) children
      (List.range' first (countChildren children))
  | [], _, _, _, _ => .nil
  | .text text :: rest, parent, first, lies, sorted => by
    obtain ⟨record, behind⟩ := lies
    have shown := behind.shows fun fields member => sorted fields (List.mem_cons_of_mem _ member)
    rw [countChildren, Nat.add_comm, List.range'_succ]
    exact .text (by simp [content?, record]) (parent_of_record? record)
      (children_of_record? record) shown
  | .element child :: rest, parent, first, lies, sorted => by
    obtain ⟨lies, behind⟩ := lies
    have shown := lies.shows fun fields member => sorted fields (by simp [childrenParts, member])
    have others := behind.shows fun fields member => sorted fields (by simp [childrenParts, member])
    rw [countChildren, ← List.range'_append_1]
    exact .element shown others

end

end Reading

section Building

variable {snapshot : Snapshot}

/-- A page whose base URLs can be read can be built. -/
theorem HasReadableUrls.outcome_eq (readable : snapshot.HasReadableUrls) {α : Type} (value : α) :
    outcome (parts snapshot) value = .ok value := by
  refine outcome_eq_ok (fun part member => ?_) value
  rcases part with ⟨_ | written⟩ | fields | text
  · rfl
  · have isRead := readable written member
    cases parsed : Url.parse written with
    | ok url => simp [Part.error?, parsed]
    | error cause => simp [parsed, Except.toOption] at isRead
  · rfl
  · rfl

/-- A page whose base URLs can be read is appended to an arena node by node, and can be read there again. -/
theorem buildInto_shows {arena : Arena} (reachable : arena.Reachable)
    (sorted : snapshot.HasSortedNames) (readable : snapshot.HasReadableUrls) :
    ∃ built, snapshot.buildInto arena = (built, .ok arena.size) ∧
      built.size = arena.size + (parts snapshot).length ∧
      (∀ node < arena.size, built.record? node = arena.record? node) ∧
      Shows built none arena.size snapshot
        (List.range' arena.size (parts snapshot).length) := by
  have result := (result_build snapshot reachable.hasLinks).trans (readable.outcome_eq arena.size)
  rcases ran : (build snapshot).on arena with ⟨answer, built⟩
  rw [ran] at result
  obtain rfl : answer = .ok arena.size := result
  obtain ⟨-, extended, lies⟩ := liesAt_of_build snapshot reachable.hasLinks ran
  refine ⟨built, ?_, ?_, fun node old => ?_, ?_⟩
  · rw [buildInto_eq, ran]
    rfl
  · rw [length_parts, extended.size]
  · simp [extended.record? node old]
  · rw [length_parts]
    exact lies.shows sorted

/-- A page with a text and a page in a frame, in which one class attribute is written twice. -/
def framedText : Snapshot :=
  .mk (some "http://localhost/") (.mk
    ⟨"html", [("CLASS", "wide"), ("Class", "narrow"), ("id", "top")], none, none, none⟩
    [.text "before", .element (.mk ⟨"iframe", [], none, none, none⟩ []
      (some (.mk none (.mk ⟨"p", [], none, none, none⟩ [] none))))]
    none)

/-- The page is appended behind a document, and of its two class attributes the second one counts. -/
theorem buildInto_framedText :
    ∃ built, framedText.buildInto (Arena.empty.createDocument none).1 = (built, .ok 1) ∧
      built.size = 7 ∧ Shows built none 1 framedText [1, 2, 3, 4, 5, 6] ∧
      built.attributeValue 2 "class" = some "narrow" := by
  have reachable : (Arena.empty.createDocument none).1.Reachable :=
    Arena.Reachable.empty.apply (.createDocument none)
  have sorted : framedText.HasSortedNames := by
    intro fields member
    simp [framedText, parts, elementParts, childrenParts] at member
    rcases member with rfl | rfl | rfl
    · unfold Element.HasSortedNames
      decide
    · exact .nil
    · exact .nil
  have readable : framedText.HasReadableUrls := by
    intro written member
    have isWritten : written = "http://localhost/" := by
      simpa [framedText, parts, elementParts, childrenParts] using member
    rw [isWritten]
    decide +kernel
  obtain ⟨built, builds, size, -, shows⟩ := buildInto_shows reachable sorted readable
  have shows : Shows built none 1 framedText [1, 2, 3, 4, 5, 6] := shows
  refine ⟨built, builds, size, shows, ?_⟩
  cases shows with
  | page _ _ _ _ _ below =>
    cases below with
    | plain shows _ _ _ =>
      have given : Element.Gives [("CLASS", "wide"), ("Class", "narrow"), ("id", "top")] "class"
          "narrow" := ⟨"Class", by decide, by decide, by decide⟩
      exact (shows.attributeValue "class" "narrow").mpr given

end Building

section Loading

/-- Attributes are read in ascending order of their names, each name once. -/
theorem hasSortedNames_sortedEntries (entries : List (String × String)) :
    Element.HasSortedNames (sortedEntries entries) := by
  let keys := sortedEntries.distinctKeys entries
  let inOrder : String → String → Bool := fun left right => !(right < left)
  have inOrder_iff : ∀ left right, inOrder left right ↔ left ≤ right := by
    intro left right
    rw [Bool.not_eq_true', decide_eq_false_iff_not, String.not_lt]
  have distinctKeys : (distinct (entries.map Prod.fst)).Nodup := nodup_distinct _
  have nodup : (keys.mergeSort inOrder).Nodup :=
    (List.mergeSort_perm keys inOrder).nodup_iff.mpr distinctKeys
  have ascends : (keys.mergeSort inOrder).Pairwise fun left right => inOrder left right := by
    refine List.pairwise_mergeSort (fun first second third => ?_) (fun left right => ?_) keys
    · rw [inOrder_iff, inOrder_iff, inOrder_iff]
      exact String.le_trans
    · rw [Bool.or_eq_true, inOrder_iff, inOrder_iff]
      exact String.le_total left right
  refine (ascends.and nodup).filterMap _ fun key other apart entry found later foundLater => ?_
  have le : key ≤ other := (inOrder_iff key other).mp apart.1
  have isKey : entry.1 = key := by simpa using List.find?_some found
  have isOther : later.1 = other := by simpa using List.find?_some foundLater
  rw [isKey, isOther]
  exact String.not_le.mp fun ge => apart.2 (String.le_antisymm le ge)

/-- The attributes of an element that is read are read in order. -/
theorem hasSortedNames_of_elementWithin? {levels : Nat} {datum : Datum} {fields : ElementFields}
    {children : List ChildSnapshot} {frame : Option Snapshot}
    (found : elementWithin? levels datum = some (.mk fields children frame)) :
    Element.HasSortedNames fields.attributes := by
  cases levels with
  | zero => cases found
  | succ levels =>
    unfold elementWithin? at found
    simp only [Option.bind_eq_bind, Option.bind_eq_some_iff] at found
    obtain ⟨_, _, _, _, attributes, areRead, _, _, _, _, _, _, _, _, _, _, found⟩ := found
    cases found
    rcases of_withDefault areRead with rfl | ⟨datum, isRead⟩
    · exact .nil
    · unfold nested? at isRead
      split at isRead
      · cases isRead
      · unfold attributes? at isRead
        split at isRead
        · obtain ⟨texts, -, sorts⟩ := Option.bind_eq_some_iff.mp isRead
          cases sorts
          exact hasSortedNames_sortedEntries texts
        · cases isRead

/-- All attributes of a page or an element that is read are in order. -/
theorem hasSortedNames_of_read (levels : Nat) :
    (∀ {datum page}, pageWithin? levels datum = some page → page.HasSortedNames) ∧
      ∀ {datum snapshot}, elementWithin? levels datum = some snapshot →
        ∀ fields, .element fields ∈ elementParts snapshot →
          Element.HasSortedNames fields.attributes := by
  refine read_induction (fun _ page => page.HasSortedNames)
    (fun _ snapshot => ∀ fields, .element fields ∈ elementParts snapshot →
      Element.HasSortedNames fields.attributes) ?_ ?_ levels
  · intro levels baseUrl root sorted fields member
    exact sorted fields (by simpa [parts] using member)
  · intro levels datum own children frame found below inside fields member
    rcases mem_elementParts_iff.mp member with same | among | ⟨page, isFrame, within⟩
    · cases same
      exact hasSortedNames_of_elementWithin? found
    · rcases mem_childrenParts_iff.mp among with ⟨_, _, isText⟩ | ⟨child, isChild, isPart⟩
      · cases isText
      · rcases below with rfl | ⟨deeper, rfl, sorted⟩
        · cases isChild
        · exact sorted child isChild fields isPart
    · exact inside page isFrame fields within

/-- A loaded page shows what was read. -/
theorem shows_of_load {text : String} {arena : Arena} {document : Handle}
    (loaded : load text = .ok (arena, document)) :
    ∃ snapshot, read? text = some snapshot ∧ document = 0 ∧
      Shows arena none document snapshot (List.range arena.size) := by
  obtain ⟨snapshot, isRead, builds⟩ := of_load loaded
  obtain ⟨rfl, extended, lies⟩ := liesAt_of_build snapshot .empty builds
  obtain ⟨datum, -, isPage⟩ := Option.bind_eq_some_iff.mp isRead
  refine ⟨snapshot, isRead, rfl, ?_⟩
  have size : arena.size = count snapshot := by simpa [Arena.size_empty] using extended.size
  rw [size, List.range_eq_range']
  exact lies.shows ((hasSortedNames_of_read maxNesting).1 isPage)

end Loading

end Snapshot

end ElementSearch
