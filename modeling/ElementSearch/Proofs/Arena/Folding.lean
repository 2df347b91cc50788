import ElementSearch.Arena.Edit
import ElementSearch.Proofs.Text.LetterCase
import ElementSearch.Proofs.Tree.SharedLinks

/-!
# Arenas without letter case

Tags, ids and classes are compared up to letter case, so nothing but their spelling is lost of an arena in which
their ASCII letters are made small: the folded arena. Each operation, with its own tags, ids and classes folded, does
to the folded arena what it does to the arena, and answers the same (the lemmas whose names end in `_folded`). The
indexes stay the same altogether, since they file nodes under lowercase names.
-/

namespace ElementSearch

open Text

/-- The value of an attribute as far as it counts: of ids and classes the case of ASCII letters does not. -/
def foldedValue (name value : String) : String :=
  if asciiLowercase name = "id" ∨ asciiLowercase name = "class" then asciiLowercase value else value

/-- An attribute with its value folded. -/
def foldedEntry (entry : String × String) : String × String :=
  (entry.1, foldedValue entry.1 entry.2)

/-- An element with its tag, its id and its classes in small letters. -/
def Element.folded (element : Element) : Element :=
  { element with
    tag := asciiLowercase element.tag
    attributes := element.attributes.map foldedEntry }

/-- The content of a node with an element folded. -/
def Content.folded : Content → Content
  | .element known => .element known.folded
  | other => other

/-- A record with its content folded. -/
def Record.folded (record : Record) : Record :=
  { record with content := record.content.folded }

/-- An arena with its elements folded. -/
def Arena.folded (arena : Arena) : Arena :=
  { arena with records := arena.records.map Record.folded }

/-- The answer of an operation with the arena folded that it leaves behind. -/
def Arena.foldedFirst {α : Type} (result : Arena × α) : Arena × α :=
  (result.1.folded, result.2)

/-- The value of an id or a class attribute is folded. -/
theorem foldedValue_eq_asciiLowercase {name : String}
    (ignored : asciiLowercase name = "id" ∨ asciiLowercase name = "class") :
    foldedValue name = asciiLowercase :=
  funext fun _ => if_pos ignored

/-- Whether a value is folded does not depend on how the name of its attribute is spelled. -/
theorem foldedValue_asciiLowercase (name value : String) :
    foldedValue (asciiLowercase name) value = foldedValue name value := by
  simp only [foldedValue, asciiLowercase_asciiLowercase]

namespace Element

/-- Writing a folded value into folded entries is writing first and folding then. -/
theorem setEntry_folded (name value : String) (entries : List (String × String)) :
    setEntry name (foldedValue name value) (entries.map foldedEntry) =
      (setEntry name value entries).map foldedEntry := by
  induction entries with
  | nil => rfl
  | cons entry rest ih =>
    by_cases same : entry.1 = name
    · simp [setEntry, foldedEntry, same]
    · simp [setEntry, foldedEntry, same, ← ih]

/-- Setting an attribute commutes with folding the element. -/
theorem withAttribute_folded (element : Element) (name value : String) :
    element.folded.withAttribute name (foldedValue name value) =
      (element.withAttribute name value).folded := by
  simp only [withAttribute, folded, setEntry_folded]

/-- A folded element shows the folded value of each of its attributes. -/
theorem attributeValue_folded (element : Element) (name : String) :
    element.folded.attributeValue name = (element.attributeValue name).map (foldedValue name) := by
  simp only [attributeValue, folded, List.find?_map, Option.map_map]
  refine Option.map_congr fun entry found => ?_
  -- the name of the entry that was found differs from the one that was asked for in letter case at most
  have same : asciiLowercase entry.1 = asciiLowercase name := by
    simpa [sameIgnoringAsciiCase, foldedEntry] using List.find?_some found
  simp only [foldedEntry, foldedValue, Function.comp_apply, same]

end Element

namespace Arena

variable (arena : Arena)

section Readers

/-- Folding keeps the number of nodes. -/
theorem size_folded : arena.folded.size = arena.size := Array.size_map

/-- Folding leaves the id index alone: its names are lowercased already. -/
theorem ids_folded : arena.folded.ids = arena.ids := rfl

/-- Folding leaves the class index alone: its names are lowercased already. -/
theorem classes_folded : arena.folded.classes = arena.classes := rfl

/-- Folding an arena folds its records one by one. -/
theorem record?_folded (node : Handle) :
    arena.folded.record? node = (arena.record? node).map Record.folded :=
  Array.getElem?_map

/-- The content of a node is folded with it. -/
theorem content?_folded (node : Handle) :
    arena.folded.content? node = (arena.content? node).map Content.folded := by
  rw [content?, content?, record?_folded, Option.map_map, Option.map_map]
  rfl

/-- Folding leaves the kind of every node alone. -/
theorem kind_folded (node : Handle) : arena.folded.kind node = arena.kind node := by
  rw [kind, kind, content?_folded]
  rcases arena.content? node with _ | _ | _ | _ <;> rfl

/-- Folding leaves the parent of every node alone. -/
theorem parent_folded (node : Handle) : arena.folded.parent node = arena.parent node := by
  rw [parent, parent, record?_folded]
  cases arena.record? node <;> rfl

/-- Folding leaves the children of every node alone. -/
theorem children_folded (node : Handle) : arena.folded.children node = arena.children node := by
  rw [children, children, record?_folded]
  cases arena.record? node <;> rfl

/-- Folding leaves the base URL of every document alone. -/
theorem baseUrl_folded (node : Handle) : arena.folded.baseUrl node = arena.baseUrl node := by
  rw [baseUrl, baseUrl, content?_folded]
  rcases arena.content? node with _ | _ | _ | _ <;> rfl

/-- The element at a node is folded with it. -/
theorem element?_folded (node : Handle) :
    arena.folded.element? node = (arena.element? node).map Element.folded := by
  rw [element?, element?, content?_folded]
  rcases arena.content? node with _ | _ | _ | _ <;> rfl

/-- The attributes of a node show their folded values. -/
theorem attributeValue_folded (node : Handle) (name : String) :
    arena.folded.attributeValue node name = (arena.attributeValue node name).map (foldedValue name) := by
  rw [attributeValue, attributeValue, element?_folded]
  cases arena.element? node with
  | none => rfl
  | some element => exact element.attributeValue_folded name

end Readers

section Edits

variable {arena}

/-- Pushing folded content onto a folded arena is pushing first and folding then. -/
theorem push_folded (content : Content) :
    arena.folded.push content.folded = foldedFirst (arena.push content) := by
  simp only [push, foldedFirst, size_folded]
  simp only [folded, Array.map_push]
  rfl

/-- Changes of records that commute with folding commute with folding the arena. -/
theorem modifyRecord_folded {change other : Record → Record}
    (commutes : ∀ record : Record, other record.folded = (change record).folded) (node : Handle) :
    arena.folded.modifyRecord node other = (arena.modifyRecord node change).folded := by
  have same : (arena.records.map Record.folded).modify node other =
      (arena.records.modify node change).map Record.folded := by
    refine Array.ext (by simp) fun place _ _ => ?_
    simp only [Array.getElem_modify, Array.getElem_map]
    split <;> simp [commutes]
  simp only [modifyRecord, folded, same]

/-- Changes of elements that commute with folding commute with folding the arena. -/
theorem modifyElement_folded {change other : Element → Element}
    (commutes : ∀ element : Element, other element.folded = (change element).folded) (node : Handle) :
    arena.folded.modifyElement node other = (arena.modifyElement node change).folded := by
  refine modifyRecord_folded (fun record => ?_) node
  obtain ⟨parent, children, _ | element | _⟩ := record
  · rfl
  · exact congrArg (fun element => Record.mk parent children (.element element)) (commutes element)
  · rfl

section Links

/-- Changing links is the same whether it is done before or after folding. -/
theorem relink_folded {change : Record → Record}
    (commutes : ∀ record : Record, change record.folded = (change record).folded) (node : Handle) :
    (arena.modifyRecord node change).folded = arena.folded.modifyRecord node change :=
  (modifyRecord_folded commutes node).symm

/-- Detaching commutes with folding. -/
theorem detach_folded (child : Handle) : arena.folded.detach child = (arena.detach child).folded := by
  rw [detach, detach, parent_folded]
  cases arena.parent child with
  | none => rfl
  | some former =>
    dsimp only
    rw [relink_folded, relink_folded] <;> exact fun _ => rfl

/-- Attaching commutes with folding. -/
theorem attach_folded (parent child : Handle) :
    arena.folded.attach parent child = (arena.attach parent child).folded := by
  rw [attach, attach, detach_folded, relink_folded, relink_folded] <;> exact fun _ => rfl

/-- Folding moves no links. -/
theorem sharesLinks_folded :
    arena.outline.SharesLinksOn arena.folded.outline fun _ => True where
  kind _ := arena.kind_folded _
  parent _ := arena.parent_folded _
  children _ := arena.children_folded _
  known_parent _ _ := trivial
  known_child _ _ := trivial

/-- Appending is refused in a folded arena exactly where it is refused in the arena, for the same
reason. -/
theorem appendError?_folded (parent child : Handle) :
    arena.folded.appendError? parent child = arena.appendError? parent child := by
  simp only [appendError?, record?_folded, kind_folded, sharesLinks_folded.contains child trivial,
    Option.isNone_map]

/-- Appending commutes with folding, and ends alike. -/
theorem appendChild_folded (parent child : Handle) :
    arena.folded.appendChild parent child = foldedFirst (arena.appendChild parent child) := by
  rw [appendChild, appendChild, appendError?_folded, attach_folded]
  cases arena.appendError? parent child <;> rfl

end Links

section Attributes

/-- The id index is kept under lowercased ids, so folding both ids first changes nothing. -/
theorem refileId_folded (ids : Index) (node : Handle) (former : Option String) (value : String) :
    refileId ids node (former.map asciiLowercase) (asciiLowercase value) =
      refileId ids node former value := by
  cases former <;>
    simp only [refileId, Option.map_none, Option.map_some, Option.elim_none, Option.elim_some,
      lowercased_asciiLowercase, asciiLowercase_eq_empty_iff]

/-- The class index is kept under lowercased names, so folding both values first changes nothing.
-/
theorem refileClasses_folded (classes : Index) (node : Handle) (former : Option String)
    (value : String) :
    refileClasses classes node (former.map asciiLowercase) (asciiLowercase value) =
      refileClasses classes node former value := by
  cases former <;>
    simp only [refileClasses, Option.map_none, Option.map_some, Option.elim_none, Option.elim_some,
      map_lowercased_words_asciiLowercase]

/-- Writing a folded value into a folded arena is writing first and folding then, both indexes
included. -/
theorem writeAttribute_folded (node : Handle) (name value : String) :
    arena.folded.writeAttribute node name (foldedValue name value) =
      (arena.writeAttribute node name value).folded := by
  have written : (arena.folded.modifyElement node fun element =>
        element.withAttribute (asciiLowercase name) (foldedValue name value)) =
      (arena.modifyElement node fun element => element.withAttribute (asciiLowercase name) value).folded :=
    modifyElement_folded (fun element => by
      rw [← foldedValue_asciiLowercase, element.withAttribute_folded]) node
  have former : arena.folded.attributeValue node (asciiLowercase name) =
      (arena.attributeValue node (asciiLowercase name)).map (foldedValue name) := by
    rw [attributeValue_folded]
    exact congrArg (Option.map · _) (funext (foldedValue_asciiLowercase name))
  refine (Arena.mk.injEq ..).mpr ⟨congrArg records written, ?_, ?_⟩
  · refine ite_congr rfl (fun isId => ?_) fun _ => rfl
    rw [former, foldedValue_eq_asciiLowercase (.inl isId)]
    exact refileId_folded _ _ _ _
  · refine ite_congr rfl (fun isClass => ?_) fun _ => rfl
    rw [former, foldedValue_eq_asciiLowercase (.inr isClass)]
    exact refileClasses_folded _ _ _ _

/-- A change of an element is refused in a folded arena exactly where it is refused in the arena.
-/
theorem onElement_folded (node : Handle) (changed : Arena) :
    arena.folded.onElement node changed.folded = foldedFirst (arena.onElement node changed) := by
  rw [onElement, onElement, element?_folded, Option.isSome_map]
  split <;> rfl

/-- Setting an attribute commutes with folding, and ends alike. -/
theorem setAttribute_folded (node : Handle) (name value : String) :
    arena.folded.setAttribute node name (foldedValue name value) =
      foldedFirst (arena.setAttribute node name value) := by
  rw [setAttribute, setAttribute, writeAttribute_folded, onElement_folded]

end Attributes

section Looks

/-- A change that commutes with folding the element commutes with folding the arena, and ends
alike. -/
theorem restyle_folded (change : Element → Element)
    (commutes : ∀ element : Element, change element.folded = (change element).folded) (node : Handle) :
    arena.folded.onElement node (arena.folded.modifyElement node change) =
      foldedFirst (arena.onElement node (arena.modifyElement node change)) := by
  rw [modifyElement_folded commutes, onElement_folded]

/-- Naming the owner of a document commutes with folding. -/
theorem setFrameOwner_folded (document owner : Handle) :
    arena.folded.setFrameOwner document owner = (arena.setFrameOwner document owner).folded := by
  refine modifyRecord_folded (fun record => ?_) document
  obtain ⟨_, _, _ | _ | _⟩ := record <;> rfl

/-- Attaching a frame commutes with folding, and ends alike. -/
theorem attachFrame_folded (frame document : Handle) :
    arena.folded.attachFrame frame document = foldedFirst (arena.attachFrame frame document) := by
  simp only [attachFrame, kind_folded, setFrameOwner_folded]
  split
  · exact restyle_folded ({ · with frame := some document }) (fun _ => rfl) frame
  · rfl

end Looks

/-- Writing a list of attributes commutes with folding all of them. -/
theorem foldl_writeAttribute_folded (node : Handle) (attributes : List (String × String)) :
    (attributes.map foldedEntry).foldl (fun arena (name, value) => arena.writeAttribute node name value)
        arena.folded =
      (attributes.foldl (fun arena (name, value) => arena.writeAttribute node name value) arena).folded := by
  induction attributes generalizing arena with
  | nil => rfl
  | cons entry rest ih =>
    rw [List.map_cons, List.foldl_cons, List.foldl_cons, ← ih]
    simp only [foldedEntry, writeAttribute_folded]

/-- Adding an element commutes with folding its tag and its attributes, and ends alike. -/
theorem addElement_folded (parent : Handle) (tag : String) (attributes : List (String × String)) :
    arena.folded.addElement parent (asciiLowercase tag) (attributes.map foldedEntry) =
      foldedFirst (arena.addElement parent tag attributes) := by
  have created : arena.folded.createElement (asciiLowercase tag) = foldedFirst (arena.createElement tag) :=
    push_folded (.element (.plain tag))
  simp only [addElement, created, foldedFirst, foldl_writeAttribute_folded, appendChild_folded]

/-- Adding a text commutes with folding, and ends alike. -/
theorem addText_folded (parent : Handle) (text : String) :
    arena.folded.addText parent text = foldedFirst (arena.addText parent text) := by
  have created : arena.folded.createText text = foldedFirst (arena.createText text) :=
    push_folded (.text text)
  simp only [addText, created, foldedFirst, appendChild_folded]

end Edits

end Arena

end ElementSearch
