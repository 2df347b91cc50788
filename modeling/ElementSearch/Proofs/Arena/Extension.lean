import ElementSearch.Proofs.Arena.Links

/-!
# Additions to an arena

What is added to an arena leaves the older nodes alone, but for the parents of new nodes, which get more children.
A new node that is still detached can always be appended to an older one: it has no children, so it cannot lie
above its parent.
-/

namespace ElementSearch

/-- A record with more children. -/
def Record.extended (record : Record) (added : List Handle) : Record :=
  { record with children := record.children ++ added }

/-- Extending a record by no children changes nothing. -/
@[simp] theorem Record.extended_nil (record : Record) : record.extended [] = record := by
  simp [Record.extended]

/-- Children added in two goes are the children added in one. -/
@[simp] theorem Record.extended_extended (record : Record) (first second : List Handle) :
    (record.extended first).extended second = record.extended (first ++ second) := by
  simp [Record.extended]

namespace Arena

/-- The children that nodes get if only one of them gets any. -/
def onlyAt (parent : Nat) (added : List Handle) (node : Nat) : List Handle :=
  if node = parent then added else []

/-- The added children stand at the parent they were added to. -/
@[simp] theorem onlyAt_self (parent : Nat) (added : List Handle) :
    onlyAt parent added parent = added :=
  if_pos rfl

/-- Nothing is added at any other node. -/
theorem onlyAt_of_ne {parent node : Nat} (ne : node ≠ parent) (added : List Handle) :
    onlyAt parent added node = [] :=
  if_neg ne

/-- Two additions at one parent add up to one. -/
theorem onlyAt_append (parent : Nat) (first second : List Handle) (node : Nat) :
    onlyAt parent first node ++ onlyAt parent second node = onlyAt parent (first ++ second) node := by
  unfold onlyAt
  split <;> rfl

/-- Whether an arena has grown by a number of nodes and its older nodes by some children. -/
structure ExtendedBy (before : Arena) (count : Nat) (added : Nat → List Handle) (after : Arena) :
    Prop where
  size : after.size = before.size + count
  record? : ∀ node < before.size,
    after.record? node = (before.record? node).map (·.extended (added node))

namespace ExtendedBy

variable {before between after : Arena} {lower upper count : Nat}
  {first second added other : Nat → List Handle}

theorem refl (arena : Arena) : arena.ExtendedBy 0 (fun _ => []) arena where
  size := rfl
  record? node _ := by simp

/-- Extensions compose: the counts add up, and the later children stand behind the earlier ones.
-/
theorem trans (below : before.ExtendedBy lower first between)
    (above : between.ExtendedBy upper second after) :
    before.ExtendedBy (lower + upper) (fun node => first node ++ second node) after where
  size := by rw [above.size, below.size, Nat.add_assoc]
  record? node lt := by
    have between : node < between.size := by
      have size := below.size
      omega
    rw [above.record? node between, below.record? node lt, Option.map_map]
    congr 1
    funext record
    exact record.extended_extended _ _

/-- Only what is added at the nodes that were there before counts. -/
theorem of_added_eq (extended : before.ExtendedBy count added after)
    (same : ∀ node < before.size, added node = other node) :
    before.ExtendedBy count other after where
  size := extended.size
  record? node lt := by rw [extended.record? node lt, same node lt]

/-- Changes of new nodes do not matter to older ones. -/
theorem of_record?_eq (extended : before.ExtendedBy count added between)
    (size : after.size = between.size)
    (same : ∀ node < before.size, after.record? node = between.record? node) :
    before.ExtendedBy count added after where
  size := size.trans extended.size
  record? node lt := (same node lt).trans (extended.record? node lt)

end ExtendedBy

/-- Whether an arena has got one more node, which is the last child of an older one. -/
structure HasNewChild (before : Arena) (parent : Nat) (content : Content) (after : Arena) : Prop
    extends before.ExtendedBy 1 (onlyAt parent [before.size]) after where
  links : after.HasLinks
  child : after.record? before.size = some ⟨some parent, [], content⟩

namespace HasNewChild

variable {before after : Arena} {up : Nat} {content : Content}
  (new : before.HasNewChild up content after)
include new

/-- The arena with a new child is larger. -/
theorem lt_size : before.size < after.size :=
  new.size ▸ Nat.lt_succ_self before.size

/-- The only new link upwards is that of the new child. -/
theorem parent (node : Nat) :
    after.parent node = if node = before.size then some up else before.parent node := by
  rcases Nat.lt_trichotomy node before.size with old | rfl | beyond
  · rw [if_neg (Nat.ne_of_lt old), Arena.parent, Arena.parent, new.record? node old]
    cases before.record? node <;> rfl
  · rw [if_pos rfl, Arena.parent, new.child]
    rfl
  · have afterNone : after.record? node = none := by
      refine (after.record?_eq_none_iff node).mpr ?_
      rw [new.size]
      exact beyond
    have beforeNone := (before.record?_eq_none_iff node).mpr (Nat.le_of_lt beyond)
    rw [if_neg (Nat.ne_of_gt beyond), Arena.parent, Arena.parent, afterNone, beforeNone]

end HasNewChild

namespace HasNew

variable {before after : Arena} {content : Content} (new : before.HasNew content after)
include new

/-- A document that was just made leaves the older nodes alone. -/
theorem extendedBy : before.ExtendedBy 1 (fun _ => []) after where
  size := new.size
  record? node lt := by
    have old : node ≠ before.size := Nat.ne_of_lt lt
    rw [new.record?, if_neg old]
    simp

variable {parent : Nat} (lt : parent < before.size)
include lt

/-- A new node other than a document can be appended to every older one. -/
theorem appendError?_eq_none (links : after.HasLinks) (notDocument : content.kind ≠ .document) :
    after.appendError? parent before.size = none := by
  have newLt : before.size < after.size := new.size ▸ Nat.lt_succ_self before.size
  refine after.appendError?_eq_none_iff.mpr ⟨Nat.lt_trans lt newLt, newLt, ?_, ?_⟩
  · rwa [new.kind_size]
  · intro found
    obtain ⟨steps, _, reaches⟩ := Outline.contains_iff.mp found
    exact links.not_encloses_of_childless new.children_size (Nat.ne_of_lt lt) ⟨steps, reaches⟩

/-- Hanging a freshly pushed node that is no document below an old one passes every check. -/
theorem appendChild_eq (links : after.HasLinks) (notDocument : content.kind ≠ .document) :
    after.appendChild parent before.size = (after.attach parent before.size, .ok ()) := by
  rw [appendChild, new.appendError?_eq_none lt links notDocument]

/-- Appending the new node links it to its parent and changes nothing else. -/
theorem hasNewChild (links : after.HasLinks) (notDocument : content.kind ≠ .document) :
    before.HasNewChild parent content (after.attach parent before.size) where
  links := links.attach (new.appendError?_eq_none lt links notDocument)
  size := (after.size_attach parent before.size).trans new.size
  record? node old := by
    have differs : node ≠ before.size := Nat.ne_of_lt old
    rw [record?_attach, new.record?, if_neg differs, new.parent_size]
    cases before.record? node with
    | none => rfl
    | some record => simp [Record.extended, onlyAt, differs]
  child := by
    have differs : before.size ≠ parent := Nat.ne_of_gt lt
    rw [record?_attach, new.record?_size, new.parent_size]
    simp [Record.detached, differs]

end HasNew

namespace HasLinks

variable {arena : Arena} (links : arena.HasLinks) {parent : Nat} (lt : parent < arena.size)
include links lt

/-- A bare node other than a document can be added below every node. -/
theorem hasNewChild_push {content : Content} (bare : content.IsBare)
    (notDocument : content.kind ≠ .document) :
    arena.HasNewChild parent content
      ((arena.push content).1.appendChild parent arena.size).1 := by
  have new := arena.hasNew_push content
  have newLinks : (arena.push content).1.HasLinks := links.push bare
  rw [new.appendChild_eq lt newLinks notDocument]
  exact new.hasNewChild lt newLinks notDocument

/-- Adding a text to an element gives the element one new last child, which is the text. -/
theorem hasNewChild_addText (text : String) :
    arena.HasNewChild parent (.text text) (arena.addText parent text).1 :=
  links.hasNewChild_push lt trivial nofun

/-- Adding an element without attributes gives its parent one new last child, which is the
element. -/
theorem hasNewChild_addElement (tag : String) :
    arena.HasNewChild parent (.element (.plain tag)) (arena.addElement parent tag []).1 :=
  links.hasNewChild_push lt rfl nofun

end HasLinks

/-- Embedding a document in a frame changes the two of them and nothing else. -/
theorem attachFrame_of_record?_eq {arena : Arena} {frame document : Handle}
    {up above : Option Handle} {below inside : List Handle} {known : Element} {url : Option Url}
    {owner : Option Handle}
    (isFrame : arena.record? frame = some ⟨up, below, .element known⟩)
    (isDocument : arena.record? document = some ⟨above, inside, .document url owner⟩) :
    ∃ embedded, arena.attachFrame frame document = (embedded, .ok ()) ∧
      embedded.size = arena.size ∧
      embedded.record? frame =
        some ⟨up, below, .element { known with frame := some document }⟩ ∧
      embedded.record? document = some ⟨above, inside, .document url (some frame)⟩ ∧
      ∀ node, node ≠ frame → node ≠ document → embedded.record? node = arena.record? node := by
  have differs : frame ≠ document := by
    rintro rfl
    cases isFrame.symm.trans isDocument
  have kind : arena.kind document = .document := by
    rw [Arena.kind, content?, isDocument]
    rfl
  have element : ((arena.setFrameOwner document frame).element? frame).isSome := by
    rw [element?_setFrameOwner, element?, content?, isFrame]
    rfl
  refine ⟨(arena.setFrameOwner document frame).modifyElement frame ({ · with frame := some document }),
    ?_, by simp, ?_, ?_, ?_⟩
  · rw [attachFrame, if_pos kind]
    dsimp only
    rw [onElement, if_pos element]
  · rw [modifyElement, record?_modifyRecord, if_pos rfl, setFrameOwner, record?_modifyRecord,
      if_neg differs, isFrame]
    rfl
  · rw [modifyElement, record?_modifyRecord, if_neg (Ne.symm differs), setFrameOwner,
      record?_modifyRecord, if_pos rfl, isDocument]
    rfl
  · intro node notFrame notDocument
    rw [modifyElement, record?_modifyRecord, if_neg notFrame, setFrameOwner,
      record?_modifyRecord, if_neg notDocument]

end Arena

end ElementSearch
