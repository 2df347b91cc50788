import ElementSearch.Proofs.History.Reachable
import ElementSearch.Proofs.Text.LetterCase

/-!
# What the indexes file

In every reachable arena the indexes say what the attributes say: a node is filed under the lowercase form of
its id, unless that is empty, and of each of its classes, once under each name and under no other one. Whoever
looks an element up may read attributes instead.
-/

namespace ElementSearch

open Text

namespace Element

/-- The value of an attribute in a list of attributes. -/
def valueIn (entries : List (String × String)) (name : String) : Option String :=
  (entries.find? fun entry => sameIgnoringAsciiCase entry.1 name).map (·.2)

/-- Whether the names of attributes are in lowercase, as those of elements in an arena are. -/
def HasFoldedNames (entries : List (String × String)) : Prop :=
  ∀ entry ∈ entries, asciiLowercase entry.1 = entry.1

/-- What a written list holds is the entry written or was there before. -/
private theorem mem_setEntry {name value : String} {entries : List (String × String)}
    {entry : String × String} (member : entry ∈ setEntry name value entries) :
    entry = (name, value) ∨ entry ∈ entries := by
  induction entries with
  | nil => exact .inl (List.mem_singleton.mp member)
  | cons first rest ih =>
    unfold setEntry at member
    split at member
    · next same =>
      rcases List.mem_cons.mp member with rfl | other
      · exact .inl (by rw [same])
      · exact .inr (List.mem_cons_of_mem _ other)
    · rcases List.mem_cons.mp member with rfl | other
      · exact .inr List.mem_cons_self
      · exact (ih other).imp_right (List.mem_cons_of_mem _)

/-- Writing an entry under a folded name keeps all names folded. -/
theorem HasFoldedNames.setEntry {entries : List (String × String)}
    (folded : HasFoldedNames entries) (name value : String) :
    HasFoldedNames (setEntry (asciiLowercase name) value entries) := by
  intro entry member
  rcases mem_setEntry member with rfl | former
  · exact asciiLowercase_asciiLowercase name
  · exact folded entry former

/-- Setting an attribute changes the value under its own name only, in any spelling. -/
theorem HasFoldedNames.valueIn_setEntry {entries : List (String × String)}
    (folded : HasFoldedNames entries) (name value wanted : String) :
    valueIn (Element.setEntry (asciiLowercase name) value entries) wanted =
      if asciiLowercase wanted = asciiLowercase name then some value
      else valueIn entries wanted := by
  unfold valueIn
  induction entries with
  | nil =>
    by_cases same : asciiLowercase wanted = asciiLowercase name
    · simp [Element.setEntry, sameIgnoringAsciiCase, asciiLowercase_asciiLowercase, same]
    · have differs : asciiLowercase name ≠ asciiLowercase wanted := fun eq => same eq.symm
      simp [Element.setEntry, sameIgnoringAsciiCase, asciiLowercase_asciiLowercase, same, differs]
  | cons first rest ih =>
    obtain ⟨firstFolded, restFolded⟩ := List.forall_mem_cons.mp folded
    unfold Element.setEntry
    by_cases replaced : first.1 = asciiLowercase name
    · rw [if_pos replaced]
      by_cases same : asciiLowercase wanted = asciiLowercase name
      · simp [sameIgnoringAsciiCase, replaced, same, asciiLowercase_asciiLowercase]
      · have differs : asciiLowercase name ≠ asciiLowercase wanted := fun eq => same eq.symm
        simp [sameIgnoringAsciiCase, replaced, same, differs, asciiLowercase_asciiLowercase]
    · rw [if_neg replaced, List.find?_cons, List.find?_cons]
      by_cases hit : sameIgnoringAsciiCase first.1 wanted
      · -- the name of the first entry is the wanted one, so it is not the one that is set
        have differs : asciiLowercase wanted ≠ asciiLowercase name := by
          intro eq
          rw [sameIgnoringAsciiCase, beq_iff_eq, firstFolded] at hit
          exact replaced (hit.trans eq)
        simp [hit, differs]
      · simp only [hit]
        exact ih restFolded

end Element

namespace Index

/-- Whether an index files nodes exactly as a relation says, each once. -/
def Files (index : Index) (filed : String → Handle → Prop) : Prop :=
  ∀ name, (index.nodes name).Nodup ∧ ∀ node, node ∈ index.nodes name ↔ filed name node

variable {index : Index} {filed : String → Handle → Prop}

/-- An index files for a relation exactly as it files for an equivalent one. -/
theorem Files.congr {other : String → Handle → Prop} (files : index.Files filed)
    (same : ∀ name node, filed name node ↔ other name node) : index.Files other :=
  fun name => ⟨(files name).1, fun node => ((files name).2 node).trans (same name node)⟩

/-- The empty index files nothing. -/
theorem files_empty : Index.empty.Files fun _ _ => False := by
  intro name
  rw [nodes_empty]
  exact ⟨.nil, fun node => by simp⟩

/-- Filing a node under a name says of this name and this node that they belong together. -/
theorem Files.file (files : index.Files filed) (name : String) (node : Handle) :
    (index.file name node).Files fun other known =>
      if other = name ∧ known = node then True else filed other known := by
  intro other
  rw [nodes_file]
  obtain ⟨nodup, mem_iff⟩ := files other
  by_cases fresh : other = name ∧ node ∉ index.nodes name
  · rw [if_pos fresh]
    obtain ⟨rfl, isNew⟩ := fresh
    refine ⟨?_, fun known => ?_⟩
    · refine List.nodup_append.mpr ⟨nodup, by simp, fun first inside second isLast same => ?_⟩
      rw [List.mem_singleton.mp isLast] at same
      exact isNew (same ▸ inside)
    · rw [List.mem_append, List.mem_singleton, mem_iff]
      by_cases same : known = node <;> simp [same]
  · rw [if_neg fresh]
    refine ⟨nodup, fun known => (mem_iff known).trans ?_⟩
    dsimp only
    split
    · next same =>
      obtain ⟨rfl, rfl⟩ := same
      have already : known ∈ index.nodes other := Decidable.not_not.mp fun isNew => fresh ⟨rfl, isNew⟩
      exact iff_of_true ((mem_iff known).mp already) trivial
    · exact Iff.rfl

/-- Taking a node out from under a name says of this name and this node that they do not belong together. -/
theorem Files.unfile (files : index.Files filed) (name : String) (node : Handle) :
    (index.unfile name node).Files fun other known =>
      if other = name ∧ known = node then False else filed other known := by
  intro other
  rw [nodes_unfile]
  obtain ⟨nodup, mem_iff⟩ := files other
  by_cases same : other = name
  · subst same
    rw [if_pos rfl]
    refine ⟨nodup.filter _, fun known => ?_⟩
    rw [List.mem_filter, mem_iff, decide_eq_true_iff]
    by_cases isNode : known = node <;> simp [isNode]
  · rw [if_neg same]
    refine ⟨nodup, fun known => (mem_iff known).trans ?_⟩
    simp [same]

/-- What steps say of one name and one node each, they say of all their names together. -/
theorem Files.foldl {step : Index → String → Index} {node : Handle} {belongs : Prop}
    (each : ∀ {earlier said}, earlier.Files said → ∀ name, (step earlier name).Files fun other known =>
      if other = name ∧ known = node then belongs else said other known)
    (files : index.Files filed) (names : List String) :
    (names.foldl step index).Files fun other known =>
      if other ∈ names ∧ known = node then belongs else filed other known := by
  induction names generalizing index filed with
  | nil => exact files.congr (by simp)
  | cons name rest ih =>
    refine (ih (each files name)).congr fun other known => ?_
    by_cases same : known = node
    · by_cases later : other ∈ rest <;> simp [same, later]
    · simp [same]

/-- Filing a node anew replaces the names under which it was filed, if none of them is forgotten. -/
theorem Files.refile (files : index.Files filed) {former names : List String} {node : Handle}
    (isFormer : ∀ name, filed name node → name ∈ former) :
    (index.refile node former names).Files
      fun name known => if known = node then name ∈ names else filed name known := by
  have cleared := files.foldl (fun earlier name => earlier.unfile name node) former
  refine (cleared.foldl (fun earlier name => earlier.file name node) names).congr fun name known => ?_
  by_cases same : known = node
  · subst same
    have forgotten : name ∉ former → ¬ filed name known := mt (isFormer name)
    by_cases isNew : name ∈ names
    · simp [isNew]
    · by_cases isOld : name ∈ former <;> simp_all
  · simp [same]

end Index

namespace Arena

section Refiling

variable {index : Index} {filed : String → Handle → Prop} {node : Handle} {former : Option String}

/-- A node is filed under its new id, if the former one is the only one under which it was filed. -/
theorem files_refileId (files : index.Files filed)
    (isFormer : ∀ name, filed name node → name ∈ idNames former) (value : String) :
    (refileId index node former value).Files fun name known =>
      if known = node then name ∈ idNames (some value) else filed name known := by
  rw [refileId_eq]
  refine files.refile fun name already => ?_
  obtain ⟨id, rfl, _, rfl⟩ := mem_idNames_iff.mp (isFormer name already)
  exact List.mem_singleton_self _

/-- A node is filed under its new classes, if the former ones are the only ones under which it was filed. -/
theorem files_refileClasses (files : index.Files filed)
    (isFormer : ∀ name, filed name node → name ∈ classNames former) (value : String) :
    (refileClasses index node former value).Files fun name known =>
      if known = node then name ∈ classNames (some value) else filed name known := by
  rw [refileClasses_eq]
  exact files.refile isFormer

end Refiling

variable (arena : Arena)

/-- The attributes of a node, none for one that is no element. -/
def attributes (node : Handle) : List (String × String) :=
  (arena.element? node).elim [] Element.attributes

/-- The value of an attribute is read off the attributes of the node, under the folded name. -/
theorem attributeValue_eq (node : Handle) (name : String) :
    arena.attributeValue node name = Element.valueIn (arena.attributes node) name := by
  unfold attributeValue attributes
  cases arena.element? node <;> rfl

/-- Two elements with the same attributes have the same attribute values. -/
theorem attributeValue_congr {after : Arena} {node : Handle}
    (same : after.attributes node = arena.attributes node) (name : String) :
    after.attributeValue node name = arena.attributeValue node name := by
  rw [attributeValue_eq, attributeValue_eq, same]

/-- Writing an attribute writes one entry of the target, under the folded name, and nothing of any
other node. -/
theorem attributes_writeAttribute {target : Handle} (element : (arena.element? target).isSome)
    (name value : String) (node : Handle) :
    (arena.writeAttribute target name value).attributes node =
      if node = target then
        Element.setEntry (asciiLowercase name) value (arena.attributes node)
      else arena.attributes node := by
  unfold attributes
  rw [element?_writeAttribute]
  split
  · next same =>
    obtain ⟨known, present⟩ := Option.isSome_iff_exists.mp element
    rw [same, present]
    rfl
  · rfl

/-- A change that leaves the attributes of its element alone leaves those of all nodes alone. -/
theorem attributes_modifyElement {change : Element → Element}
    (keeps : ∀ element, (change element).attributes = element.attributes) (target node : Handle) :
    (arena.modifyElement target change).attributes node = arena.attributes node := by
  unfold attributes
  rw [element?_modifyElement]
  split
  · cases arena.element? node with
    | none => rfl
    | some known => exact keeps known
  · rfl

/-- A pushed node that is bare has no attributes, and the other nodes keep theirs. -/
theorem attributes_push {content : Content} (bare : content.IsBare) (node : Handle) :
    (arena.push content).1.attributes node = arena.attributes node := by
  unfold attributes
  rw [element?_push]
  split
  · next new =>
    rw [new, element?_size]
    cases content with
    | document => rfl
    | text => rfl
    | element known =>
      rw [show known = .plain known.tag from bare]
      rfl
  · rfl

/-- Whether two arenas have the same indexes and their nodes the same attributes. -/
structure SameNames (before after : Arena) : Prop where
  ids : after.ids = before.ids
  classes : after.classes = before.classes
  attributes : ∀ node, after.attributes node = before.attributes node

/-- A move touches no index. -/
theorem sameNames_attach (parent child : Handle) :
    arena.SameNames (arena.attach parent child) where
  ids := by
    unfold Arena.attach detach
    split <;> rfl
  classes := by
    unfold Arena.attach detach
    split <;> rfl
  attributes node := by
    rw [attributes, element?_attach, attributes]

/-- Growth sets an attribute, or leaves names alone. -/
theorem Growth.writes_or_sameNames {before after : Arena} (growth : Growth before after) :
    (∃ node name value, (before.element? node).isSome ∧
        after = before.writeAttribute node name value) ∨ before.SameNames after := by
  cases growth with
  | create bare => exact .inr ⟨rfl, rfl, before.attributes_push bare⟩
  | @write node element name value => exact .inl ⟨node, name, value, element, rfl⟩
  | restyle node keeps =>
    exact .inr ⟨rfl, rfl, before.attributes_modifyElement (fun known => (keeps known).2.1) node⟩
  | own document owner =>
    refine .inr ⟨rfl, rfl, fun node => ?_⟩
    rw [attributes, element?_setFrameOwner, attributes]
  | embed isDocument frame =>
    refine .inr ⟨rfl, rfl, before.attributes_modifyElement ?_ frame⟩
    exact fun _ => rfl
  | adopt accepted loose childless => exact .inr (before.sameNames_attach _ _)

/-- What setting an attribute keeps, and so does every change that leaves names alone, holds of every reachable
arena. -/
theorem Reachable.induction_names {Holds : Arena → Prop} (base : Holds .empty)
    (same : ∀ {before after : Arena}, before.SameNames after → Holds before → Holds after)
    (write : ∀ {arena : Arena} {node}, (arena.element? node).isSome → ∀ name value,
      Holds arena → Holds (arena.writeAttribute node name value))
    {arena : Arena} (reachable : arena.Reachable) : Holds arena := by
  refine reachable.induction base (fun growth holds => ?_) fun _ holds =>
    same (sameNames_attach _ _ _) holds
  rcases growth.writes_or_sameNames with ⟨node, name, value, element, rfl⟩ | sameNames
  · exact write element name value holds
  · exact same sameNames holds

/-- The indexes of an arena say what the attributes of its elements say. -/
structure IsFiled : Prop where
  ids : arena.ids.Files fun name node => name ∈ idNames (arena.attributeValue node "id")
  classes : arena.classes.Files fun name node => name ∈ classNames (arena.attributeValue node "class")
  folded : ∀ node, Element.HasFoldedNames (arena.attributes node)

/-- The empty arena is filed: it holds no node and both indexes are empty. -/
theorem IsFiled.empty : IsFiled Arena.empty where
  ids := Index.files_empty.congr fun _ _ => ⟨False.elim, fun member => by cases member⟩
  classes := Index.files_empty.congr fun _ _ => ⟨False.elim, fun member => by cases member⟩
  folded := by
    intro node entry member
    cases member

section Invariant

variable {arena} (filed : arena.IsFiled)
include filed

/-- A change that keeps the attributes and the indexes keeps the filing. -/
theorem IsFiled.of_same {after : Arena} (same : arena.SameNames after) : after.IsFiled where
  ids := by
    rw [same.ids]
    refine filed.ids.congr fun name node => ?_
    rw [arena.attributeValue_congr (same.attributes node)]
  classes := by
    rw [same.classes]
    refine filed.classes.congr fun name node => ?_
    rw [arena.attributeValue_congr (same.attributes node)]
  folded := by
    intro node
    rw [same.attributes]
    exact filed.folded node

/-- What an attribute that was set says afterwards. -/
theorem IsFiled.attributeValue_writeAttribute {target : Handle}
    (element : (arena.element? target).isSome) (name value : String) (node : Handle)
    (wanted : String) :
    (arena.writeAttribute target name value).attributeValue node wanted =
      if node = target ∧ asciiLowercase wanted = asciiLowercase name then some value
      else arena.attributeValue node wanted := by
  rw [attributeValue_eq, attributeValue_eq, arena.attributes_writeAttribute element]
  by_cases same : node = target
  · rw [if_pos same, (filed.folded node).valueIn_setEntry]
    simp [same]
  · rw [if_neg same, if_neg fun both => same both.1]

/-- Setting an attribute keeps the indexes in step. -/
theorem IsFiled.write {target : Handle} (element : (arena.element? target).isSome)
    (name value : String) : (arena.writeAttribute target name value).IsFiled where
  ids := by
    -- an index follows the one attribute that it is made from
    have folded : asciiLowercase "id" = "id" := by decide
    rw [ids_writeAttribute]
    by_cases isId : asciiLowercase name = "id"
    · rw [if_pos isId, isId]
      refine (files_refileId filed.ids (fun _ already => already) value).congr fun key node => ?_
      rw [filed.attributeValue_writeAttribute element, folded, isId]
      by_cases same : node = target <;> simp [same]
    · rw [if_neg isId]
      refine filed.ids.congr fun key node => ?_
      rw [filed.attributeValue_writeAttribute element, folded, if_neg]
      exact fun both => isId both.2.symm
  classes := by
    have folded : asciiLowercase "class" = "class" := by decide
    rw [classes_writeAttribute]
    by_cases isClass : asciiLowercase name = "class"
    · rw [if_pos isClass, isClass]
      refine (files_refileClasses filed.classes (fun _ already => already) value).congr
        fun key node => ?_
      rw [filed.attributeValue_writeAttribute element, folded, isClass]
      by_cases same : node = target <;> simp [same]
    · rw [if_neg isClass]
      refine filed.classes.congr fun key node => ?_
      rw [filed.attributeValue_writeAttribute element, folded, if_neg]
      exact fun both => isClass both.2.symm
  folded := by
    intro node
    rw [arena.attributes_writeAttribute element]
    split
    · exact (filed.folded node).setEntry name value
    · exact filed.folded node

end Invariant

/-- In every reachable arena the indexes are in step with the attributes. -/
theorem Reachable.isFiled {arena : Arena} (reachable : arena.Reachable) : arena.IsFiled :=
  reachable.induction_names .empty (fun same filed => filed.of_same same)
    fun element name value filed => filed.write element name value

section Lookup

variable {arena : Arena} (filed : arena.IsFiled)
include filed

/-- A node is filed under a name if that is the lowercase form of its id. -/
theorem IsFiled.mem_ids_iff {name : String} {node : Handle} :
    node ∈ arena.ids.nodes name ↔
      ∃ id, arena.attributeValue node "id" = some id ∧ id ≠ "" ∧ lowercased id = name :=
  ((filed.ids name).2 node).trans mem_idNames_iff

/-- A node is filed under a name if that is the lowercase form of one of its classes. -/
theorem IsFiled.mem_classes_iff {name : String} {node : Handle} :
    node ∈ arena.classes.nodes name ↔
      ∃ text, arena.attributeValue node "class" = some text ∧
        ∃ word ∈ words text, lowercased word = name :=
  ((filed.classes name).2 node).trans mem_classNames_iff

/-- No node is filed twice under one id. -/
theorem IsFiled.nodup_ids (name : String) : (arena.ids.nodes name).Nodup := (filed.ids name).1

/-- No node is filed twice under one class name. -/
theorem IsFiled.nodup_classes (name : String) : (arena.classes.nodes name).Nodup :=
  (filed.classes name).1

end Lookup

end Arena

end ElementSearch
