import ElementSearch.Proofs.Arena.Lookup
import ElementSearch.Proofs.Arena.Preorder

/-!
# Lookups answer as scans do

The indexes hold nodes of all documents in the order in which they were filed. A lookup keeps those in its scope and
sorts them by the places of their ancestors. What comes out is what a walk down from the scope passes on its way, in the
order of the walk, however the nodes were made, filed and moved: `Reachable.answersAsScans`. Only the empty id is an
exception, since it is not filed.
-/

namespace ElementSearch.Arena

open Text

variable {arena : Arena}

/-- Whether a node has a class, up to letter case. -/
def hasClass (arena : Arena) (name : String) (node : Handle) : Bool :=
  (arena.attributeValue node "class").any fun text =>
    (words text).any fun word => lowercased word == lowercased name

/-- Whether a node has an id, up to letter case. -/
def hasId (arena : Arena) (id : String) (node : Handle) : Bool :=
  (arena.attributeValue node "id").any fun value => lowercased value == lowercased id

/-- A node has a class when a word of its class attribute is that name but for case. -/
theorem hasClass_iff {name : String} {node : Handle} :
    arena.hasClass name node ↔ ∃ text, arena.attributeValue node "class" = some text ∧
      ∃ word ∈ words text, lowercased word = lowercased name := by
  simp only [hasClass, Option.any_eq_true, List.any_eq_true, beq_iff_eq]

/-- A node has an id when its id attribute is that id but for case. -/
theorem hasId_iff {id : String} {node : Handle} :
    arena.hasId id node ↔ ∃ value, arena.attributeValue node "id" = some value ∧
      lowercased value = lowercased id := by
  simp only [hasId, Option.any_eq_true, beq_iff_eq]

/-- Only elements have classes. -/
theorem isElement_of_hasClass {name : String} {node : Handle} (has : arena.hasClass name node) :
    arena.outline.isElement node := by
  obtain ⟨_, present, _⟩ := hasClass_iff.mp has
  exact isElement_of_attributeValue present

/-- Only elements have ids. -/
theorem isElement_of_hasId {id : String} {node : Handle} (has : arena.hasId id node) :
    arena.outline.isElement node := by
  obtain ⟨_, present, _⟩ := hasId_iff.mp has
  exact isElement_of_attributeValue present

section Filed

variable (filed : arena.IsFiled)
include filed

/-- What is filed under a class is what has it. -/
theorem IsFiled.mem_classes_iff_hasClass {name : String} {node : Handle} :
    node ∈ arena.classes.nodes (lowercased name) ↔ arena.hasClass name node :=
  filed.mem_classes_iff.trans hasClass_iff.symm

/-- What is filed under an id is what has it, unless the id is empty. -/
theorem IsFiled.mem_ids_iff_hasId {id : String} (nonempty : id ≠ "") {node : Handle} :
    node ∈ arena.ids.nodes (lowercased id) ↔ arena.hasId id node := by
  rw [filed.mem_ids_iff, hasId_iff]
  refine exists_congr fun value => and_congr_right fun _ => and_iff_right_of_imp fun same => ?_
  rintro rfl
  exact nonempty ((eq_empty_iff_of_lowercased_eq same).mp rfl)

end Filed

section Scope

variable (links : arena.HasLinks) (shallow : arena.outline.IsShallow)
  (leaves : arena.outline.HasLeafTexts) {node : Handle} (element : arena.outline.isElement node)
include links shallow leaves element

/-- The test by which a lookup confines elements to a scope finds those that a walk down finds. -/
theorem contains_iff_mem_descendants {scope : Handle} :
    (node ≠ scope && arena.outline.contains scope node) ↔ node ∈ arena.outline.descendants scope := by
  rw [Bool.and_eq_true, decide_eq_true_iff, shallow.contains_iff,
    (links.isShallowForest shallow).mem_descendants_iff leaves]
  constructor
  · rintro ⟨differs, encloses⟩
    exact ⟨element, encloses.isAncestor_of_ne differs.symm⟩
  · rintro ⟨_, ancestor⟩
    refine ⟨?_, ancestor.encloses⟩
    rintro rfl
    exact shallow.isAcyclic node ancestor

/-- The elements that belong to a document are those below it. -/
theorem documentOf_iff_mem_descendants {document : Handle}
    (isDocument : arena.kind document = .document) :
    arena.outline.documentOf node = some document ↔ node ∈ arena.outline.descendants document := by
  have differs : document ≠ node := by
    rintro rfl
    cases (of_decide_eq_true element : arena.kind document = .element).symm.trans isDocument
  rw [links.isLinked.documentOf_eq_some_iff shallow,
    (links.isShallowForest shallow).mem_descendants_iff leaves]
  constructor
  · rintro ⟨encloses, _⟩
    exact ⟨element, encloses.isAncestor_of_ne differs⟩
  · rintro ⟨_, ancestor⟩
    exact ⟨ancestor.encloses, isDocument⟩

end Scope

section Lookups

variable (links : arena.HasLinks) (filed : arena.IsFiled) (shallow : arena.outline.IsShallow)
  (leaves : arena.outline.HasLeafTexts)
include links shallow

/-- Nodes that are filed for what they have, confined to what is below a scope and put in document order, are what a
scan of the scope picks. -/
theorem inDocumentOrder_filter_eq_scan {filedNodes : List Handle} {has confined : Handle → Bool}
    {scope : Handle} (nodup : filedNodes.Nodup) (mem_iff : ∀ node, node ∈ filedNodes ↔ has node)
    (confines : ∀ node, has node → (confined node ↔ node ∈ arena.outline.descendants scope)) :
    arena.inDocumentOrder (filedNodes.filter confined) =
      (arena.outline.descendants scope).filter has := by
  refine inDocumentOrder_eq_filter links shallow (nodup.filter _) fun node => ?_
  rw [List.mem_filter, mem_iff, and_comm]
  exact and_congr_left fun isFound => confines node isFound

include filed leaves

/-- The lookup for a class answers as a scan of the scope does. -/
theorem elementsByClassName_eq_scan (scope : Handle) (name : String) :
    arena.elementsByClassName scope name =
      (arena.outline.descendants scope).filter (arena.hasClass name) :=
  inDocumentOrder_filter_eq_scan links shallow (filed.nodup_classes _)
    (fun _ => filed.mem_classes_iff_hasClass)
    fun _ has => contains_iff_mem_descendants links shallow leaves (isElement_of_hasClass has)

/-- The selection of a class answers as a scan of the document does. -/
theorem selectByClass_eq_scan {document : Handle} (isDocument : arena.kind document = .document)
    (name : String) :
    arena.selectByClass document name =
      (arena.outline.descendants document).filter (arena.hasClass name) := by
  refine inDocumentOrder_filter_eq_scan links shallow (filed.nodup_classes _)
    (fun _ => filed.mem_classes_iff_hasClass) fun node has => ?_
  rw [decide_eq_true_iff]
  exact documentOf_iff_mem_descendants links shallow leaves (isElement_of_hasClass has) isDocument

/-- The lookup for an id answers as a scan of the document does, except for an empty id. -/
theorem elementById_eq_firstWithId {document : Handle}
    (isDocument : arena.kind document = .document) {id : String} (nonempty : id ≠ "") :
    arena.elementById document id = arena.outline.firstWithId document id := by
  have sorted : arena.inDocumentOrder ((arena.ids.nodes (lowercased id)).filter fun node =>
      arena.outline.documentOf node = some document) =
        (arena.outline.descendants document).filter (arena.hasId id) := by
    refine inDocumentOrder_filter_eq_scan links shallow (filed.nodup_ids _)
      (fun _ => filed.mem_ids_iff_hasId nonempty) fun node has => ?_
    rw [decide_eq_true_iff]
    exact documentOf_iff_mem_descendants links shallow leaves (isElement_of_hasId has) isDocument
  have scanned : arena.outline.firstWithId document id =
      (arena.outline.descendants document).find? (arena.hasId id) := rfl
  rw [elementById, sorted, List.head?_filter, scanned]

end Lookups

/-- Whether the lookups of an arena answer as scans do, in the same order. -/
structure AnswersAsScans (arena : Arena) : Prop where
  elementsByClassName : ∀ scope name, arena.host.elementsByClassName scope name =
    some ((arena.outline.descendants scope).filter (arena.hasClass name))
  selectByClass : ∀ document, arena.kind document = .document → ∀ name,
    arena.host.selectByClass document name =
      some ((arena.outline.descendants document).filter (arena.hasClass name))
  elementById : ∀ document, arena.kind document = .document → ∀ id, id ≠ "" →
    arena.host.elementById document id = arena.outline.firstWithId document id

/-- However an arena came about, its lookups answer as scans do. -/
theorem Reachable.answersAsScans (reachable : arena.Reachable) (shallow : arena.outline.IsShallow)
    (leaves : arena.outline.HasLeafTexts) : arena.AnswersAsScans where
  elementsByClassName scope name :=
    congrArg some (elementsByClassName_eq_scan reachable.hasLinks reachable.isFiled shallow leaves
      scope name)
  selectByClass _ isDocument name :=
    congrArg some (selectByClass_eq_scan reachable.hasLinks reachable.isFiled shallow leaves
      isDocument name)
  elementById _ isDocument _ nonempty :=
    elementById_eq_firstWithId reachable.hasLinks reachable.isFiled shallow leaves isDocument nonempty

section Shuffled

/-- A page whose items were filed before they got their places, and not in their order. -/
def shuffled : Arena :=
  empty.after
    [.createDocument none, .createElement "li", .setAttribute 1 "CLASS" "ΟΔΟΣ x",
      .setAttribute 1 "id" "last", .addElement 0 "ul" [("class", "X")], .addElement 2 "li" [("id", "LAST")],
      .addElement 3 "b" [("class", "X x")], .appendChild 2 1, .setAttribute 3 "class" "x Οδος",
      .appendChild 2 3, .appendChild 2 1]

theorem reachable_shuffled : shuffled.Reachable := ⟨_, rfl⟩

theorem isShallow_shuffled : shuffled.outline.IsShallow := by
  refine isShallow_of_ends fun node lt => ⟨4, by decide, ?_⟩
  revert node
  decide

theorem hasLeafTexts_shuffled : shuffled.outline.HasLeafTexts := by
  refine hasLeafTexts_of_all ?_
  rw [show shuffled.size = 5 by decide]
  decide

/-- The item that was filed first comes last, behind the one that was moved before it. -/
theorem answersAsScans_shuffled :
    shuffled.host.elementsByClassName 2 "X" = some [3, 4, 1] ∧
      shuffled.host.selectByClass 0 "ΟΔΟΣ" = some [3, 1] ∧
      shuffled.host.elementById 0 "Last" = some 3 := by
  have scans := reachable_shuffled.answersAsScans isShallow_shuffled hasLeafTexts_shuffled
  have isDocument : shuffled.kind 0 = .document := by decide
  rw [scans.elementsByClassName, scans.selectByClass 0 isDocument,
    scans.elementById 0 isDocument "Last" (by decide)]
  decide +kernel

end Shuffled

end ElementSearch.Arena
