import ElementSearch.Arena.Host
import ElementSearch.Proofs.Arena.Links
import ElementSearch.Proofs.Tree.Frames

/-!
# Arenas that hang from one document

Every node of an arena may hang from an outermost document: through its parent or, if it is the document of a
page inside a frame, through that frame. `HangsAt` counts the links on the way. It is defined by what is recorded
for each node, and what holds of all nodes that hang is shown by induction on the way down to them. In such an arena
walks towards the root are exact, and the search for embedded documents finds every document.
-/

namespace ElementSearch.Arena

/-- Whether a node is a document with a root element right behind it as its only child. -/
def IsPage (arena : Arena) (document : Nat) (owner : Option Handle) : Prop :=
  (∃ url, arena.record? document = some ⟨none, [document + 1], .document url owner⟩) ∧
    arena.kind (document + 1) = .element

/-- Whether a node hangs from an outermost document, and after how many links. -/
inductive HangsAt (arena : Arena) (outermost : Nat) : (level node : Nat) → Prop where
  | outermost (page : arena.IsPage outermost none) : HangsAt arena outermost 0 outermost
  | framed {level frame document : Nat} {known : Element}
      (above : HangsAt arena outermost level frame)
      (isFrame : arena.element? frame = some known) (holds : known.frame = some document)
      (page : arena.IsPage document (some frame)) :
      HangsAt arena outermost (level + 1) document
  | element {level up node : Nat} {children : List Handle} {known : Element}
      (above : HangsAt arena outermost level up)
      (record : arena.record? node = some ⟨some up, children, .element known⟩) :
      HangsAt arena outermost (level + 1) node
  | text {level up node : Nat} {text : String} (above : HangsAt arena outermost level up)
      (record : arena.record? node = some ⟨some up, [], .text text⟩) :
      HangsAt arena outermost (level + 1) node

/-- Whether all nodes of an arena hang from an outermost document, none of them too deep for a walk towards the
root. -/
structure HangsFrom (arena : Arena) (outermost : Nat) : Prop where
  links : arena.HasLinks
  page : arena.IsPage outermost none
  hangs : ∀ {node}, node < arena.size →
    ∃ level < maxAncestorSteps, arena.HangsAt outermost level node

/-- Only documents are embedded. -/
theorem HasLinks.kind_of_embeds {arena : Arena} (links : arena.HasLinks) {outer inner : Handle}
    (embeds : arena.host.Embeds outer inner) : arena.kind inner = .document := by
  obtain ⟨frame, _, holds⟩ := List.mem_filterMap.mp embeds
  obtain ⟨known, isFrame, holds⟩ := Option.bind_eq_some_iff.mp holds
  exact links.kind_of_frame isFrame holds

/-- All documents that an arena embeds are nodes of it. -/
theorem HasLinks.embedsWithin {arena : Arena} (links : arena.HasLinks) :
    arena.host.EmbedsWithin (List.range arena.size) := by
  refine ⟨Nat.le_of_eq List.length_range, fun {outer inner} embeds => ?_⟩
  exact List.mem_range.mpr (arena.lt_size_of_kind_eq (links.kind_of_embeds embeds) nofun)

section Pages

variable {arena : Arena} {document : Nat} {owner : Option Handle}
  (page : arena.IsPage document owner)
include page

/-- The document of a page has no parent. -/
theorem IsPage.parent : arena.parent document = none := by
  obtain ⟨⟨url, record⟩, _⟩ := page
  exact parent_of_record? record

/-- The document of a page is a document. -/
theorem IsPage.kind : arena.kind document = .document := by
  obtain ⟨⟨url, record⟩, _⟩ := page
  exact kind_of_record? record

/-- The one child of the document of a page is the node made next. -/
theorem IsPage.children : arena.children document = [document + 1] := by
  obtain ⟨⟨url, record⟩, _⟩ := page
  exact children_of_record? record

/-- The search in a page starts from its root element. -/
theorem IsPage.documentElement : arena.outline.documentElement document = some (document + 1) := by
  have children : arena.outline.children document = [document + 1] := page.children
  have root : arena.outline.isElement (document + 1) = true := decide_eq_true page.2
  simp [Outline.documentElement, Outline.elementChildren, children, root]

end Pages

section Nodes

variable {arena : Arena} {outermost level node : Nat}

/-- The chain of parents above a node has no more links than the way to it. -/
theorem HangsAt.climb_eq_none (hangs : arena.HangsAt outermost level node) :
    arena.outline.climb (level + 1) node = none := by
  have ends : ∀ {document : Nat} {owner : Option Handle} (links : Nat),
      arena.IsPage document owner → arena.outline.climb (links + 1) document = none := by
    intro document owner links page
    have noParent : arena.outline.parent document = none := page.parent
    rw [Outline.climb_succ, noParent, Option.bind_none]
  have goesOn : ∀ {up node : Nat} {record : Record} {links : Nat},
      arena.record? node = some record → record.parent = some up →
      arena.outline.climb links up = none → arena.outline.climb (links + 1) node = none := by
    intro up node record links present linked stops
    have isUp : arena.outline.parent node = some up := (parent_of_record? present).trans linked
    rwa [Outline.climb_succ_of_parent isUp]
  induction hangs with
  | outermost page => exact ends 0 page
  | framed _ _ _ page _ => exact ends _ page
  | element _ record ih => exact goesOn record rfl ih
  | text _ record ih => exact goesOn record rfl ih

/-- A document that hangs in a tree of pages is the document of a page. -/
theorem HangsAt.isPage_of_document (hangs : arena.HangsAt outermost level node)
    (isDocument : arena.kind node = .document) : ∃ owner, arena.IsPage node owner := by
  cases hangs with
  | outermost page => exact ⟨none, page⟩
  | framed _ _ _ page => exact ⟨_, page⟩
  | element _ record => cases (kind_of_record? record).symm.trans isDocument
  | text _ record => cases (kind_of_record? record).symm.trans isDocument

/-- A text that hangs in a tree of pages has no children. -/
theorem HangsAt.children_of_text (hangs : arena.HangsAt outermost level node)
    (isText : arena.kind node = .text) : arena.children node = [] := by
  cases hangs with
  | outermost page => cases page.kind.symm.trans isText
  | framed _ _ _ page => cases page.kind.symm.trans isText
  | element _ record => cases (kind_of_record? record).symm.trans isText
  | text _ record => exact children_of_record? record

end Nodes

namespace HangsFrom

variable {arena : Arena} {outermost : Nat} (hanging : arena.HangsFrom outermost)
include hanging

/-- Trees of pages are shallow: no chain of parents is as long as the bound on climbs. -/
theorem isShallow : arena.outline.IsShallow :=
  isShallow_of_ends fun _ lt =>
    have ⟨level, below, hangs⟩ := hanging.hangs lt
    ⟨level + 1, below, hangs.climb_eq_none⟩

/-- Trees of pages are shallow forests. -/
theorem isShallowForest : arena.host.IsShallowForest :=
  hanging.links.isShallowForest hanging.isShallow

/-- The texts of a tree of pages are leaves. -/
theorem hasLeafTexts : arena.host.HasLeafTexts := by
  intro node isText
  have lt := arena.lt_size_of_kind_eq isText nofun
  obtain ⟨_, _, hangs⟩ := hanging.hangs lt
  exact hangs.children_of_text isText

/-- The document of a node is the document above it. -/
theorem documentOf_eq_some_iff {node document : Nat} :
    arena.outline.documentOf node = some document ↔
      arena.outline.Encloses document node ∧ arena.kind document = .document :=
  hanging.links.isLinked.documentOf_eq_some_iff hanging.isShallow

/-- A document embeds what its frames hold. -/
theorem embeds_of_frame {outer frame document : Nat} {known : Element}
    (isIn : arena.outline.documentOf frame = some outer)
    (isFrame : arena.element? frame = some known) (holds : known.frame = some document) :
    arena.host.Embeds outer document := by
  obtain ⟨encloses, isDocument⟩ := hanging.documentOf_eq_some_iff.mp isIn
  have isElement : arena.kind frame = .element := by
    rw [← element?_isSome_iff, isFrame]
    rfl
  have differs : outer ≠ frame := by
    rintro rfl
    cases isDocument.symm.trans isElement
  refine List.mem_filterMap.mpr ⟨frame, ?_, ?_⟩
  · exact (hanging.isShallowForest.mem_descendants_iff hanging.hasLeafTexts).mpr
      ⟨decide_eq_true isElement, encloses.isAncestor_of_ne differs⟩
  · change (arena.element? frame).bind (·.frame) = some document
    rw [isFrame]
    exact holds

/-- Every node belongs to a document that is reached through frames: the last one on the way down to the
node. -/
theorem exists_documentOf {level node : Nat} (hangs : arena.HangsAt outermost level node) :
    ∃ document, arena.outline.documentOf node = some document ∧
      Relation.ReflTransGen arena.host.Embeds outermost document := by
  have ofPage : ∀ {document : Nat} {owner : Option Handle}, arena.IsPage document owner →
      arena.outline.documentOf document = some document :=
    fun page => hanging.documentOf_eq_some_iff.mpr ⟨.refl _, page.kind⟩
  have ofChild : ∀ {up node : Nat} {record : Record}, arena.record? node = some record →
      record.parent = some up → arena.outline.documentOf up = arena.outline.documentOf node := by
    intro up node record present linked
    refine hanging.links.isLinked.documentOf_eq_of_encloses hanging.isShallow ?_
    have isUp : arena.outline.parent node = some up := (parent_of_record? present).trans linked
    exact (Outline.isAncestor_of_parent isUp).encloses
  induction hangs with
  | outermost page => exact ⟨outermost, ofPage page, .refl⟩
  | framed _ isFrame holds page ih =>
    obtain ⟨outer, isIn, reached⟩ := ih
    exact ⟨_, ofPage page, reached.tail (hanging.embeds_of_frame isIn isFrame holds)⟩
  | element _ record ih => rwa [ofChild record rfl] at ih
  | text _ record ih => rwa [ofChild record rfl] at ih

/-- The outermost document and those embedded in it are all documents of the arena. -/
theorem mem_documents_iff {node : Nat} :
    node ∈ outermost :: arena.host.frameDocuments outermost ↔ arena.kind node = .document := by
  rw [List.mem_cons, Host.mem_frameDocuments_iff hanging.links.embedsWithin]
  constructor
  · rintro (rfl | ⟨ne, reached⟩)
    · exact hanging.page.kind
    · rcases reached.cases_tail with same | ⟨outer, _, embeds⟩
      · exact absurd same ne
      · exact hanging.links.kind_of_embeds embeds
  · intro isDocument
    have lt := arena.lt_size_of_kind_eq isDocument nofun
    obtain ⟨_, _, hangs⟩ := hanging.hangs lt
    obtain ⟨document, isIn, reached⟩ := hanging.exists_documentOf hangs
    obtain ⟨encloses, _⟩ := hanging.documentOf_eq_some_iff.mp isIn
    have same := hanging.links.isLinked.eq_of_encloses_document isDocument encloses
    rw [same] at reached
    exact or_iff_not_imp_left.mpr fun ne => ⟨ne, reached⟩

/-- Every node belongs to one of these documents. -/
theorem exists_mem_documents {node : Nat} (lt : node < arena.size) :
    ∃ document ∈ outermost :: arena.host.frameDocuments outermost,
      arena.outline.documentOf node = some document := by
  obtain ⟨_, _, hangs⟩ := hanging.hangs lt
  obtain ⟨document, isIn, _⟩ := hanging.exists_documentOf hangs
  exact ⟨document, hanging.mem_documents_iff.mpr (hanging.documentOf_eq_some_iff.mp isIn).2, isIn⟩

/-- The outermost document and its frame documents are listed once each. -/
theorem nodup_documents : (outermost :: arena.host.frameDocuments outermost).Nodup := by
  refine List.nodup_cons.mpr ⟨fun member => ?_, Host.nodup_frameDocuments hanging.links.embedsWithin _⟩
  exact ((Host.mem_frameDocuments_iff hanging.links.embedsWithin).mp member).1 rfl

/-- Every document of a tree of pages is the document of a page. -/
theorem isPage {document : Nat} (isDocument : arena.kind document = .document) :
    ∃ owner, arena.IsPage document owner := by
  have lt := arena.lt_size_of_kind_eq isDocument nofun
  obtain ⟨_, _, hangs⟩ := hanging.hangs lt
  exact hangs.isPage_of_document isDocument

/-- The elements of a document are those in the subtree of its root element. -/
theorem mem_subtree_iff {document node : Nat} (isDocument : arena.kind document = .document) :
    node ∈ arena.outline.subtree (document + 1) ↔
      arena.kind node = .element ∧ arena.outline.documentOf node = some document := by
  have forest := hanging.isShallowForest
  obtain ⟨owner, page⟩ := hanging.isPage isDocument
  have isChild : ∀ {child : Nat},
      arena.outline.parent child = some document ↔ child = document + 1 := by
    intro child
    have linked : child ∈ arena.children document ↔ arena.outline.parent child = some document :=
      hanging.links.mem_children_iff
    rw [← linked, page.children, List.mem_singleton]
  rw [hanging.documentOf_eq_some_iff]
  constructor
  · intro member
    have encloses := forest.encloses_of_mem_subtree member
    have above := Outline.isAncestor_iff_child.mpr ⟨document + 1, isChild.mpr rfl, encloses⟩
    refine ⟨?_, above.encloses, isDocument⟩
    rcases (forest.mem_subtree_iff hanging.hasLeafTexts).mp member with same | ⟨isElement, _⟩
    · exact same ▸ page.2
    · exact of_decide_eq_true isElement
  · rintro ⟨isElement, encloses, _⟩
    have differs : document ≠ node := by
      rintro rfl
      cases isDocument.symm.trans isElement
    obtain ⟨child, linked, inside⟩ :=
      Outline.isAncestor_iff_child.mp (encloses.isAncestor_of_ne differs)
    rw [isChild.mp linked] at inside
    refine (forest.mem_subtree_iff hanging.hasLeafTexts).mpr ?_
    exact (Outline.encloses_iff_eq_or_isAncestor.mp inside).imp_right fun ancestor =>
      ⟨decide_eq_true isElement, ancestor⟩

end HangsFrom

end ElementSearch.Arena
