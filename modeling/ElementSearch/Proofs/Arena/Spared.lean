import ElementSearch.Proofs.Arena.Lookup
import ElementSearch.Proofs.Arena.Preorder
import ElementSearch.Proofs.Arena.Sparing
import ElementSearch.Proofs.Search.Agreement

/-!
# What is seen from spared nodes

An arena may grow and spare all nodes that it had. Then no link leads from these to new nodes, and since links are
consistent none leads back. The indexes do change, but a lookup asks for nodes that lie below an old one or in its
document, and new ones do not. So to a search that starts at an old node the arena looks as before
(`Spares.agreesOn`).
-/

namespace ElementSearch.Arena.Spares

open Text

variable {before after : Arena}

section Records

variable {bound : Nat} (spares : before.Spares bound after) {node : Handle} (old : node < bound)
include spares old

/-- An old node keeps its content. -/
theorem content? : after.content? node = before.content? node := by
  rw [Arena.content?, Arena.content?, spares.record? node old]

/-- An old node keeps its kind. -/
theorem kind : after.kind node = before.kind node := by
  rw [Arena.kind, Arena.kind, spares.content? old]

/-- An old node keeps its parent. -/
theorem parent : after.parent node = before.parent node := by
  rw [Arena.parent, Arena.parent, spares.record? node old]

/-- An old node keeps its children. -/
theorem children : after.children node = before.children node := by
  rw [Arena.children, Arena.children, spares.record? node old]

/-- An old node keeps its element. -/
theorem element? : after.element? node = before.element? node := by
  rw [Arena.element?, Arena.element?, spares.content? old]

/-- An old document keeps its base URL. -/
theorem baseUrl : after.baseUrl node = before.baseUrl node := by
  rw [Arena.baseUrl, Arena.baseUrl, spares.content? old]

/-- An old node keeps the values of its attributes. -/
theorem attributeValue (name : String) :
    after.attributeValue node name = before.attributeValue node name := by
  rw [Arena.attributeValue, Arena.attributeValue, spares.element? old]

end Records

variable (spares : before.Spares before.size after) (links : before.HasLinks)
include spares links

/-- From old nodes links lead to old nodes, which are as before. -/
theorem outline_agreesOn : before.outline.AgreesOn after.outline (· < before.size) where
  kind old := spares.kind old
  parent old := spares.parent old
  children old := spares.children old
  tagName old := congrArg (·.map Element.tag) (spares.element? old)
  attributeValue old := spares.attributeValue old
  known_parent _ linked := links.parent_lt linked
  known_child _ member := before.lt_size_of_parent_eq_some (links.mem_children_iff.mp member)

/-- The links among the old nodes are the links there were. -/
theorem sharesLinks : before.outline.SharesLinksOn after.outline (· < before.size) :=
  (spares.outline_agreesOn links).sharesLinks

/-- A reference of an old node is resolved as before. -/
theorem property {node : Handle} (old : node < before.size) (name : String) :
    after.property node name = before.property node name := by
  have shares := spares.sharesLinks links
  have base : (before.outline.documentOf node).bind after.baseUrl =
      (before.outline.documentOf node).bind before.baseUrl :=
    Option.bind_congr fun document found =>
      spares.baseUrl (shares.known_of_documentOf old found)
  have resolve : ∀ reference, after.resolve node reference = before.resolve node reference := by
    intro reference
    rw [Arena.resolve, Arena.resolve, shares.documentOf old, base]
  unfold Arena.property
  simp only [spares.element? old, resolve]

variable (afterLinks : after.HasLinks)
include afterLinks

/-- Below an old node lie old nodes only. -/
theorem old_of_encloses {above node : Handle} (old : above < before.size)
    (encloses : after.outline.Encloses above node) : node < before.size := by
  obtain ⟨steps, reaches⟩ := encloses
  induction steps generalizing node with
  | zero => exact Option.some.inj reaches ▸ old
  | succ steps ih =>
    obtain ⟨up, linked, further⟩ := Outline.climb_succ_eq_some_iff.mp reaches
    -- the parent is old, so it has the children that it had, and these are old
    have isChild : node ∈ before.children up :=
      spares.children (ih further) ▸ afterLinks.mem_children_iff.mpr linked
    exact before.lt_size_of_parent_eq_some (links.mem_children_iff.mp isChild)

/-- Old nodes contain only old nodes. -/
theorem old_of_contains {above node : Handle} (old : above < before.size)
    (inside : after.outline.contains above node) : node < before.size := by
  obtain ⟨steps, _, reaches⟩ := Outline.contains_iff.mp inside
  exact spares.old_of_encloses links afterLinks old ⟨steps, reaches⟩

/-- The nodes of an old document are old. -/
theorem old_of_documentOf {document node : Handle} (old : document < before.size)
    (found : after.outline.documentOf node = some document) : node < before.size := by
  refine spares.old_of_contains links afterLinks old (decide_eq_true ?_)
  exact List.mem_of_find?_eq_some found

section Lookups

/-- Of the nodes filed under a name the same ones belong to an old document. -/
theorem filter_documentOf {index changed : Index} (spared : index.Spares before.size changed)
    {name : String} (isOld : ∀ node ∈ index.nodes name, node < before.size) {document : Handle}
    (old : document < before.size) :
    ((changed.nodes name).filter fun node => after.outline.documentOf node = some document) =
      (index.nodes name).filter fun node => before.outline.documentOf node = some document := by
  refine spared.filter_nodes isOld (fun node oldNode => ?_) fun node found => ?_
  · rw [(spares.sharesLinks links).documentOf oldNode]
  · exact spares.old_of_documentOf links afterLinks old (of_decide_eq_true found)

/-- Of the nodes filed under a name the same ones lie below an old node. -/
theorem filter_contains {index changed : Index} (spared : index.Spares before.size changed)
    {name : String} (isOld : ∀ node ∈ index.nodes name, node < before.size) {scope : Handle}
    (old : scope < before.size) :
    ((changed.nodes name).filter fun node =>
        node ≠ scope && after.outline.contains scope node) =
      (index.nodes name).filter fun node =>
        node ≠ scope && before.outline.contains scope node := by
  refine spared.filter_nodes isOld (fun node oldNode => ?_) fun node found => ?_
  · rw [(spares.sharesLinks links).contains scope oldNode]
  · exact spares.old_of_contains links afterLinks old (Bool.and_eq_true_iff.mp found).2

variable (filed : before.IsFiled)
include filed

/-- The lookup by id in an old document finds the element it found before. -/
theorem elementById {document : Handle} (old : document < before.size) (id : String) :
    after.elementById document id = before.elementById document id := by
  have isOld : ∀ node ∈ before.ids.nodes (lowercased id), node < before.size := by
    intro node member
    obtain ⟨_, present, _⟩ := filed.mem_ids_iff.mp member
    exact before.lt_size_of_attributeValue_eq_some present
  rw [Arena.elementById, Arena.elementById,
    spares.filter_documentOf links afterLinks spares.ids isOld old,
    inDocumentOrder_of_sharesLinks (spares.sharesLinks links)]
  exact fun node member => isOld node (List.mem_of_mem_filter member)

omit spares links afterLinks in
/-- Only old nodes were filed under a class before. -/
theorem old_of_mem_classes (name : String) (node : Handle) (member : node ∈ before.classes.nodes name) :
    node < before.size := by
  obtain ⟨_, present, _⟩ := filed.mem_classes_iff.mp member
  exact before.lt_size_of_attributeValue_eq_some present

/-- The lookup by class below an old node finds the elements it found before. -/
theorem elementsByClassName {scope : Handle} (old : scope < before.size) (name : String) :
    after.elementsByClassName scope name = before.elementsByClassName scope name := by
  have isOld := old_of_mem_classes filed (lowercased name)
  rw [Arena.elementsByClassName, Arena.elementsByClassName,
    spares.filter_contains links afterLinks spares.classes isOld old,
    inDocumentOrder_of_sharesLinks (spares.sharesLinks links)]
  exact fun node member => isOld node (List.mem_of_mem_filter member)

/-- The selector of a class in an old document finds the elements it found before. -/
theorem selectByClass {document : Handle} (old : document < before.size) (name : String) :
    after.selectByClass document name = before.selectByClass document name := by
  have isOld := old_of_mem_classes filed (lowercased name)
  rw [Arena.selectByClass, Arena.selectByClass,
    spares.filter_documentOf links afterLinks spares.classes isOld old,
    inDocumentOrder_of_sharesLinks (spares.sharesLinks links)]
  exact fun node member => isOld node (List.mem_of_mem_filter member)

variable (forest : before.outline.IsForest)
include forest

/-- To a search that starts at an old node the arena looks as before. -/
theorem agreesOn : before.host.AgreesOn after.host (· < before.size) where
  toAgreesOn := spares.outline_agreesOn links
  property old := spares.property links old
  style old := congrArg (·.map Element.style) (spares.element? old)
  boundingRect old := congrArg (·.bind Element.rect) (spares.element? old)
  clientSize old := congrArg (·.bind Element.clientSize) (spares.element? old)
  elementById old := spares.elementById links afterLinks filed old
  elementsByTagName old :=
    (spares.outline_agreesOn links).descendantsWithTag forest spares.size_le old
  elementsByClassName old name :=
    congrArg some (spares.elementsByClassName links afterLinks filed old name)
  selectByClass old name := congrArg some (spares.selectByClass links afterLinks filed old name)
  known_hit _ found hit member :=
    before.lt_size_of_kind_eq (of_decide_eq_true
      (looksUpElements filed links.isLinked _ _ _ found hit member)) nofun

/-- Searches that start at an old node return the same nodes in the same order. -/
theorem locate (rule : Rule) (traversal : Traversal) {scope : Handle} (old : scope < before.size) :
    rule.locate after.host traversal scope = rule.locate before.host traversal scope :=
  (spares.agreesOn links afterLinks filed forest).locate forest spares.size_le rule traversal old

end Lookups

end ElementSearch.Arena.Spares
