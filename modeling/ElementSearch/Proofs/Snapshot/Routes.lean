import ElementSearch.Proofs.History.Attachments
import ElementSearch.Proofs.Snapshot.Loaded
import ElementSearch.Proofs.Text.Joining
import ElementSearch.Proofs.Text.LetterCase

/-!
# Paths across frames

A path is printed from labels alone, and a label may look like a part of a path: an id may be ` > `, and without a tag
and an id there is nothing to print. Still a path shows the frames that lead to a node. What is printed for each
document on the way, from its root element down to the frame that leads on, is joined by bars, provided that no tag, id
or class holds a bar: `showsRoute_of_load`.
-/

namespace ElementSearch

open Text

section Labels

/-- What a piece of a list holds, the list holds. -/
theorem mem_of_mem_splitOnP {α : Type} (separates : α → Bool) {items piece : List α} {item : α}
    (isPiece : piece ∈ items.splitOnP separates) (member : item ∈ piece) : item ∈ items := by
  induction items generalizing piece with
  | nil =>
    rw [List.splitOnP_nil, List.mem_singleton] at isPiece
    exact isPiece ▸ member
  | cons first rest ih =>
    rw [List.splitOnP_cons_eq_if_modifyHead] at isPiece
    split at isPiece
    · rcases List.mem_cons.mp isPiece with rfl | behind
      · cases member
      · exact List.mem_cons_of_mem first (ih behind member)
    · obtain ⟨head, others, pieces⟩ :=
        List.exists_cons_of_ne_nil (List.splitOnP_ne_nil separates rest)
      rw [pieces] at isPiece ih
      rcases List.mem_cons.mp isPiece with rfl | behind
      · exact List.mem_cons.mpr ((List.mem_cons.mp member).imp_right (ih List.mem_cons_self))
      · exact List.mem_cons_of_mem first (ih (List.mem_cons_of_mem head behind) member)

/-- The words of a text hold nothing that is not in the text. -/
theorem mem_of_mem_words {text word : String} {character : Char} (isWord : word ∈ words text)
    (member : character ∈ word.toList) : character ∈ text.toList := by
  obtain ⟨piece, isPiece, rfl⟩ := List.mem_map.mp isWord
  rw [String.toList_ofList] at member
  exact mem_of_mem_splitOnP isBlank (List.mem_filter.mp isPiece).1 member

/-- Folding a text neither adds nor removes a bar. -/
theorem bar_mem_asciiLowercase_iff {text : String} :
    '|' ∈ (asciiLowercase text).toList ↔ '|' ∈ text.toList := by
  have same (character : Char) : (character.toLower = '|') = (character = '|') :=
    comp_toLower_of_capitals (f := (· = '|')) (by decide) character
  simp [toList_asciiLowercase, same]

end Labels

/-- Whether neither the tag nor the id nor the classes of an element have a bar in them. -/
def Element.HasNoBars (element : Element) : Prop :=
  '|' ∉ element.tag.toList ∧ (∀ id ∈ element.attributeValue "id", '|' ∉ id.toList) ∧
    ∀ classes ∈ element.attributeValue "class", '|' ∉ classes.toList

instance (element : Element) : Decidable element.HasNoBars :=
  inferInstanceAs (Decidable (_ ∧ _ ∧ _))

namespace Arena

/-- Whether no tag, id or class in an arena has a bar in it. -/
def HasNoBars (arena : Arena) : Prop :=
  ∀ node, ∀ element ∈ arena.element? node, element.HasNoBars

/-- Whether nodes lead from the root element of a document down to a node, each one the parent of the next. -/
inductive IsBranch (arena : Arena) (document : Handle) : List Handle → Handle → Prop where
  | root {node : Handle} (isRoot : arena.outline.documentElement document = some node) :
      IsBranch arena document [node] node
  | child {nodes : List Handle} {up node : Handle} (above : IsBranch arena document nodes up)
      (linked : arena.parent node = some up) : IsBranch arena document (nodes ++ [node]) node

/-- Whether branches lead from an outermost document down to a document, each to the frame that holds the next
document. -/
inductive IsRoute (arena : Arena) (outermost : Handle) : List (List Handle) → Handle → Prop where
  | outermost : IsRoute arena outermost [] outermost
  | inFrame {branches : List (List Handle)} {nodes : List Handle} {outer frame document : Handle}
      (route : IsRoute arena outermost branches outer) (branch : arena.IsBranch outer nodes frame)
      (holds : arena.host.contentDocument frame = some document) :
      IsRoute arena outermost (branches ++ [nodes]) document

/-- Whether a node lies on a branch of a document to which a route leads. -/
def IsOnRoute (arena : Arena) (outermost node : Handle) : Prop :=
  ∃ branches document nodes,
    arena.IsRoute outermost branches document ∧ arena.IsBranch document nodes node

/-- What a path shows of a branch. -/
def joinLabels (arena : Arena) (nodes : List Handle) : String :=
  " > ".intercalate (nodes.map arena.label)

/-- The labels of a branch as lists of characters. -/
def labelTexts (arena : Arena) (nodes : List Handle) : List (List Char) :=
  nodes.map fun node => (arena.label node).toList

/-- Whether a node is reached from an outermost document and its path shows how: branch by branch, and so, if it is in
a frame, like the path of the frame with one more branch. -/
structure ShowsRoute (arena : Arena) (outermost node : Handle) : Prop where
  isOnRoute : arena.IsOnRoute outermost node
  path_eq : ∀ branches document nodes, arena.IsRoute outermost branches document →
    arena.IsBranch document nodes node →
    arena.path node = " | ".intercalate ((branches ++ [nodes]).map arena.joinLabels)
  path_inFrame : ∀ frame document nodes, arena.host.contentDocument frame = some document →
    arena.IsBranch document nodes node →
    arena.path node = arena.path frame ++ " | " ++ arena.joinLabels nodes

variable {arena : Arena} {outermost document node : Handle} {branches : List (List Handle)}
  {nodes : List Handle}

section Labels

/-- The labels of a branch are joined by arrows. -/
theorem toList_joinLabels (arena : Arena) (nodes : List Handle) :
    (arena.joinLabels nodes).toList = " > ".toList.intercalate (arena.labelTexts nodes) := by
  rw [joinLabels, String.toList_intercalate, List.map_map]
  rfl

/-- An element that is written without bars has a label without bars. -/
theorem bar_notMem_elementLabel {element : Element} (plain : element.HasNoBars) :
    '|' ∉ (elementLabel element).toList := by
  obtain ⟨tag, id, classes⟩ := plain
  unfold elementLabel
  simp only [String.toList_append, List.mem_append, not_or]
  refine ⟨⟨mt bar_mem_asciiLowercase_iff.mp tag, ?_⟩, ?_⟩
  · cases shown : (element.attributeValue "id").filter (· ≠ "") with
    | none => decide
    | some text =>
      have clear := id text (Option.filter_eq_some_iff.mp shown).1
      simpa using clear
  · intro member
    rw [String.toList_join] at member
    obtain ⟨_, isShown, member⟩ := List.mem_flatMap.mp member
    obtain ⟨word, isWord, rfl⟩ := List.mem_map.mp isShown
    have inWord : '|' ∈ word.toList := by simpa using member
    have inText := mem_of_mem_words isWord inWord
    cases present : element.attributeValue "class" with
    | none => simp [present] at inText
    | some text =>
      rw [present, Option.getD_some] at inText
      exact classes text present inText

/-- Labels have no bars but those of tags, ids and classes. -/
theorem HasNoBars.label (plain : arena.HasNoBars) (node : Handle) :
    '|' ∉ (arena.label node).toList := by
  unfold Arena.label
  split
  · decide
  · decide
  · next element isContent =>
    have isElement : arena.element? node = some element := by
      rw [Arena.element?, isContent]
      rfl
    exact bar_notMem_elementLabel (plain node element isElement)
  · have noDigit : '|' ∉ Nat.toDigits 10 node := fun member =>
      absurd (Nat.isDigit_of_mem_toDigits (by decide) (by decide) member) (by decide)
    simp [Nat.repr, noDigit]

/-- Where the segments of a path are the labels of branches with a bar behind each but the last one, the path shows the
branches. -/
theorem HasNoBars.path_eq (plain : arena.HasNoBars)
    (nonempty : ∀ shown ∈ branches ++ [nodes], shown ≠ [])
    (segments : (arena.pathSegments maxAncestorSteps node).reverse =
      branches.flatMap (fun nodes => nodes.map arena.label ++ ["|"]) ++ nodes.map arena.label) :
    arena.path node = " | ".intercalate ((branches ++ [nodes]).map arena.joinLabels) := by
  have texts : (arena.pathSegments maxAncestorSteps node).reverse.map String.toList =
      List.intercalate [['|']] ((branches ++ [nodes]).map arena.labelTexts) := by
    rw [segments, List.map_append, List.map_append, List.map_singleton, intercalate_concat,
      List.flatMap_map, List.map_flatMap]
    simp [labelTexts, Function.comp_def]
  have notEmpty : ∀ group ∈ (branches ++ [nodes]).map arena.labelTexts, group ≠ [] := by
    intro group isGroup
    obtain ⟨shown, isShown, rfl⟩ := List.mem_map.mp isGroup
    simpa [labelTexts] using nonempty shown isShown
  have clear : ∀ group ∈ (branches ++ [nodes]).map arena.labelTexts, ∀ text ∈ group, '|' ∉ text := by
    intro group isGroup text isText
    obtain ⟨shown, _, rfl⟩ := List.mem_map.mp isGroup
    obtain ⟨node, _, rfl⟩ := List.mem_map.mp isText
    exact plain.label node
  have noMark : '|' ∉ " > ".toList := by decide
  rw [← String.toList_inj, Arena.path, String.toList_ofList, texts, String.toList_intercalate]
  refine (replaceAll_groups noMark " | ".toList notEmpty clear).trans (congrArg _ ?_)
  rw [List.map_map, List.map_map]
  exact List.map_congr_left fun nodes _ => (arena.toList_joinLabels nodes).symm

end Labels

/-- A branch has one node at least. -/
theorem IsBranch.ne_nil (branch : arena.IsBranch document nodes node) : nodes ≠ [] := by
  cases branch with
  | root _ => exact List.cons_ne_nil _ _
  | child _ _ => simp

/-- No branch of a route is empty. -/
theorem IsRoute.ne_nil (route : arena.IsRoute outermost branches document) :
    ∀ nodes ∈ branches, nodes ≠ [] := by
  induction route with
  | outermost => nofun
  | inFrame _ branch _ ih => exact List.forall_mem_append.mpr ⟨ih, by simpa using branch.ne_nil⟩

namespace HangsFrom

variable (hanging : arena.HangsFrom outermost)
include hanging

/-- The segments of a path are complete, so one more step adds none. -/
theorem pathSegments_succ (node : Handle) :
    arena.pathSegments (maxAncestorSteps + 1) node = arena.pathSegments maxAncestorSteps node :=
  hanging.hasWholeWalks.pathSegments node _ (Nat.le_succ maxAncestorSteps)

/-- The path of a node is its label and the path of its parent. -/
theorem pathSegments_of_parent {up : Handle} (linked : arena.parent node = some up) :
    arena.pathSegments maxAncestorSteps node =
      arena.label node :: arena.pathSegments maxAncestorSteps up := by
  have other : arena.kind node ≠ .document := fun isDocument => by
    have noParent : arena.parent node = none := hanging.links.isLinked.parent_of_document isDocument
    cases noParent.symm.trans linked
  rw [← hanging.pathSegments_succ node, pathSegments, if_neg other, linked]

/-- The path ends at the outermost document. -/
theorem pathSegments_outermost : arena.pathSegments maxAncestorSteps outermost = [] := by
  have noFrame := hanging.page.outward
  rw [outward, if_pos hanging.page.kind] at noFrame
  rw [← hanging.pathSegments_succ outermost, pathSegments, if_pos hanging.page.kind, noFrame]

/-- The path of a node goes on from that of its document along the branch. -/
theorem pathSegments_of_branch (branch : arena.IsBranch document nodes node) :
    (arena.pathSegments maxAncestorSteps node).reverse =
      (arena.pathSegments maxAncestorSteps document).reverse ++ nodes.map arena.label := by
  induction branch with
  | root isRoot =>
    have isChild := List.mem_of_head? isRoot
    have linked := (hanging.links.isLinked.mem_elementChildren_iff.mp isChild).1
    rw [hanging.pathSegments_of_parent linked, List.reverse_cons]
    rfl
  | child above linked ih =>
    rw [hanging.pathSegments_of_parent linked, List.reverse_cons, ih, List.map_append,
      List.append_assoc]
    rfl

/-- The path of a document goes along the branches of its route, with a bar behind each. -/
theorem pathSegments_of_route (paired : arena.HasMutualFrames)
    (route : arena.IsRoute outermost branches document) :
    (arena.pathSegments maxAncestorSteps document).reverse =
      branches.flatMap (fun nodes => nodes.map arena.label ++ ["|"]) := by
  induction route with
  | outermost =>
    rw [hanging.pathSegments_outermost]
    rfl
  | @inFrame branches nodes outer frame document _ branch holds ih =>
    obtain ⟨_, isFrame, inside⟩ := Option.bind_eq_some_iff.mp holds
    have isDocument := hanging.links.kind_of_frame isFrame inside
    have stands := (paired frame document).mp holds
    rw [← hanging.pathSegments_succ document, pathSegments_of_frameOwner isDocument stands,
      List.reverse_cons, hanging.pathSegments_of_branch branch, ih, List.flatMap_append,
      List.flatMap_singleton, List.append_assoc]

/-- A node lies on a branch if its parent does, or is a document to which a route leads. -/
theorem isOnRoute_of_parent {up : Handle} (linked : arena.parent node = some up)
    (above : (arena.kind up = .document ∧ ∃ branches, arena.IsRoute outermost branches up) ∨
      arena.IsOnRoute outermost up) : arena.IsOnRoute outermost node := by
  rcases above with ⟨isDocument, branches, route⟩ | ⟨branches, document, nodes, route, branch⟩
  · -- the only child of a document is its root element
    obtain ⟨_, page⟩ := hanging.isPage isDocument
    have isChild := hanging.links.mem_children_iff.mpr linked
    rw [page.children, List.mem_singleton] at isChild
    exact ⟨branches, up, [node], route, .root (isChild ▸ page.documentElement)⟩
  · exact ⟨branches, document, nodes ++ [node], route, branch.child linked⟩

/-- Every node that hangs from the outermost document is a document to which a route leads or lies on a branch of one. -/
theorem isOnRoute_of_hangsAt {level : Nat} (hangs : arena.HangsAt outermost level node) :
    (arena.kind node = .document ∧ ∃ branches, arena.IsRoute outermost branches node) ∨
      arena.IsOnRoute outermost node := by
  induction hangs with
  | outermost page => exact .inl ⟨page.kind, [], .outermost⟩
  | @framed _ frame document known _ isFrame holds page ih =>
    have inside : arena.host.contentDocument frame = some document := by
      rw [contentDocument_eq, isFrame]
      exact holds
    rcases ih with ⟨isDocument, _⟩ | ⟨branches, outer, nodes, route, branch⟩
    · cases isDocument.symm.trans (kind_of_contentDocument inside)
    · exact .inl ⟨page.kind, _, route.inFrame branch inside⟩
  | element _ record ih => exact .inr (hanging.isOnRoute_of_parent (parent_of_record? record) ih)
  | text _ record ih => exact .inr (hanging.isOnRoute_of_parent (parent_of_record? record) ih)

/-- Every element and every text of the arena is on a route from the outermost document. -/
theorem isOnRoute (isPrinted : arena.kind node = .element ∨ arena.kind node = .text) :
    arena.IsOnRoute outermost node := by
  have notDocument : arena.kind node ≠ .document := by
    rcases isPrinted with is | is <;> rw [is] <;> nofun
  have lt : node < arena.size := by
    rcases isPrinted with is | is <;> exact arena.lt_size_of_kind_eq is nofun
  obtain ⟨_, _, hangs⟩ := hanging.hangs lt
  exact (hanging.isOnRoute_of_hangsAt hangs).resolve_left fun found => notDocument found.1

/-- The path of an element or a text shows its route, if frames and documents name each other and no label has a
bar. -/
theorem showsRoute (paired : arena.HasMutualFrames) (plain : arena.HasNoBars)
    (isPrinted : arena.kind node = .element ∨ arena.kind node = .text) :
    arena.ShowsRoute outermost node := by
  have shows : ∀ {branches document nodes node}, arena.IsRoute outermost branches document →
      arena.IsBranch document nodes node →
      arena.path node = " | ".intercalate ((branches ++ [nodes]).map arena.joinLabels) := by
    intro branches document nodes node route branch
    refine plain.path_eq (List.forall_mem_append.mpr ⟨route.ne_nil, by simpa using branch.ne_nil⟩) ?_
    rw [hanging.pathSegments_of_branch branch, hanging.pathSegments_of_route paired route]
  refine ⟨hanging.isOnRoute isPrinted, fun _ _ _ => shows, ?_⟩
  intro frame document nodes holds branch
  obtain ⟨branches, outer, above, route, way⟩ :=
    hanging.isOnRoute (.inl (kind_of_contentDocument holds))
  have notEmpty : (branches ++ [above]).map arena.joinLabels ≠ [] := by simp
  rw [shows (route.inFrame way holds) branch, shows route way, List.map_append,
    String.intercalate_append_of_ne_nil notEmpty (by simp), List.map_singleton,
    String.intercalate_singleton]

end HangsFrom

end Arena

namespace Snapshot

open Arena

/-- In the arena of a loaded page without bars in tags, ids and classes the path of an element or a text shows the
route from the document of the page: what is shown of the documents on the way is joined by bars, and within each of
them the labels from its root element on are. -/
theorem showsRoute_of_load {text : String} {arena : Arena} {document node : Handle}
    (loaded : load text = .ok (arena, document)) (plain : arena.HasNoBars)
    (isPrinted : arena.kind node = .element ∨ arena.kind node = .text) :
    arena.ShowsRoute document node :=
  (hangsFrom_of_load loaded).2.showsRoute (hasMutualFrames_of_load loaded) plain isPrinted

section MisleadingPage

/-- A page in which an id looks like what stands between labels, around a page in which a label is empty, around a page
with a paragraph. -/
def misleadingPageText : String :=
  "[null,[\"\",\x7b\"id\":\" > \"\x7d,null,null,null,[]," ++
    "[null,[\"\",\x7b\x7d,null,null,null,[],[null,[\"p\"]]]]]]"

def misleadingPage : Arena :=
  ((load misleadingPageText).toOption.map Prod.fst).getD .empty

theorem load_misleadingPage : load misleadingPageText = .ok (misleadingPage, 0) :=
  load_eq_ok (by decide +kernel)

theorem hasNoBars_misleadingPage : misleadingPage.HasNoBars := by
  have all : ∀ node < misleadingPage.size, ∀ element ∈ misleadingPage.element? node,
      element.HasNoBars := by decide +kernel
  exact fun node element isElement =>
    all node (misleadingPage.lt_size_of_element?_eq_some isElement) element isElement

/-- The path of the paragraph shows both frames around it. -/
theorem showsRoute_misleadingPage :
    load misleadingPageText = .ok (misleadingPage, 0) ∧ misleadingPage.HasNoBars ∧
      misleadingPage.kind 5 = .element ∧ misleadingPage.ShowsRoute 0 5 ∧
      misleadingPage.path 5 = "# >  |  | p" := by
  -- one evaluation of the whole page for all that is read off it
  have shape : misleadingPage.kind 5 = .element ∧
      misleadingPage.outline.documentElement 0 = some 1 ∧
      misleadingPage.outline.documentElement 2 = some 3 ∧
      misleadingPage.outline.documentElement 4 = some 5 ∧
      misleadingPage.host.contentDocument 1 = some 2 ∧
      misleadingPage.host.contentDocument 3 = some 4 ∧
      [[1], [3], [5]].map misleadingPage.joinLabels = ["# > ", "", "p"] := by decide +kernel
  obtain ⟨isElement, first, second, third, outer, inner, labels⟩ := shape
  have shows := showsRoute_of_load load_misleadingPage hasNoBars_misleadingPage (.inl isElement)
  have route : misleadingPage.IsRoute 0 [[1], [3]] 4 :=
    (IsRoute.outermost.inFrame (.root first) outer).inFrame (.root second) inner
  refine ⟨load_misleadingPage, hasNoBars_misleadingPage, isElement, shows, ?_⟩
  rw [shows.path_eq _ _ _ route (.root third), List.cons_append, List.singleton_append, labels]
  decide

end MisleadingPage

end Snapshot

end ElementSearch
