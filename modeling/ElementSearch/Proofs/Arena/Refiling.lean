import ElementSearch.Arena.Edit
import Mathlib.Data.List.Basic

/-!
# Refiling

When an id or a class attribute is set, the element is taken out from under its former names one by one, and then filed
under the new names one by one. Any other attribute is a case of this without names. So what filing and unfiling an
element keep of an index, setting its attributes keeps of both indexes (`refile_induction`): an invariant of indexes is
shown for `file` and `unfile` only.
-/

namespace ElementSearch

open Text

namespace Index

/-- Takes a node out from under its former names, and files it under others. -/
def refile (index : Index) (node : Handle) (former names : List String) : Index :=
  names.foldl (fun index name => index.file name node)
    (former.foldl (fun index name => index.unfile name node) index)

/-- What filing and unfiling a node keep, filing it anew keeps. -/
theorem refile_induction {Holds : Index → Prop} {node : Handle}
    (file : ∀ index name, Holds index → Holds (index.file name node))
    (unfile : ∀ index name, Holds index → Holds (index.unfile name node))
    {index : Index} (holds : Holds index) (former names : List String) :
    Holds (index.refile node former names) := by
  have cleared : Holds (former.foldl (fun index name => index.unfile name node) index) :=
    former.foldlRecOn _ holds fun earlier kept name _ => unfile earlier name kept
  exact names.foldlRecOn _ cleared fun earlier kept name _ => file earlier name kept

end Index

namespace Arena

/-- The names under which an id is filed. An empty id is filed under none. -/
def idNames (value : Option String) : List String :=
  value.elim [] fun id => if id = "" then [] else [lowercased id]

/-- The names under which a class attribute is filed. -/
def classNames (value : Option String) : List String :=
  value.elim [] fun text => (words text).map lowercased

/-- An element is filed under its lowercased id, unless the id is empty. -/
theorem mem_idNames_iff {value : Option String} {name : String} :
    name ∈ idNames value ↔ ∃ id, value = some id ∧ id ≠ "" ∧ lowercased id = name := by
  cases value with
  | none => simp [idNames]
  | some id => by_cases empty : id = "" <;> simp [idNames, empty, eq_comm]

/-- An element is filed under each of its lowercased class names. -/
theorem mem_classNames_iff {value : Option String} {name : String} :
    name ∈ classNames value ↔
      ∃ text, value = some text ∧ ∃ word ∈ words text, lowercased word = name := by
  cases value <;> simp [classNames]

/-- A node whose id changes is taken out from under the former id, be that empty or not. -/
theorem refileId_eq (index : Index) (node : Handle) (former : Option String) (value : String) :
    refileId index node former value =
      index.refile node (former.elim [] fun id => [lowercased id]) (idNames (some value)) := by
  unfold refileId idNames Index.refile
  cases former <;> by_cases empty : value = "" <;> simp [empty]

/-- A node whose classes change is taken out from under all former ones, the ones that it keeps included. -/
theorem refileClasses_eq (index : Index) (node : Handle) (former : Option String) (value : String) :
    refileClasses index node former value =
      index.refile node (classNames former) (classNames (some value)) := by
  cases former <;> rfl

variable (arena : Arena) (node : Handle) (name value : String)

/-- The index of ids changes if the attribute is the id in any spelling. -/
theorem ids_writeAttribute :
    (arena.writeAttribute node name value).ids =
      if asciiLowercase name = "id" then
        refileId arena.ids node (arena.attributeValue node (asciiLowercase name)) value
      else arena.ids := rfl

/-- The index of classes changes if the attribute is the class attribute in any spelling. -/
theorem classes_writeAttribute :
    (arena.writeAttribute node name value).classes =
      if asciiLowercase name = "class" then
        refileClasses arena.classes node (arena.attributeValue node (asciiLowercase name)) value
      else arena.classes := rfl

/-- Setting an attribute files the node anew in the index of ids, perhaps under no name. -/
theorem exists_ids_writeAttribute_eq :
    ∃ former names, (arena.writeAttribute node name value).ids = arena.ids.refile node former names := by
  rw [ids_writeAttribute]
  split
  · exact ⟨_, _, refileId_eq ..⟩
  · exact ⟨[], [], rfl⟩

/-- Setting an attribute files the node anew in the index of classes, perhaps under no name. -/
theorem exists_classes_writeAttribute_eq :
    ∃ former names,
      (arena.writeAttribute node name value).classes = arena.classes.refile node former names := by
  rw [classes_writeAttribute]
  split
  · exact ⟨_, _, refileClasses_eq ..⟩
  · exact ⟨[], [], rfl⟩

end Arena

end ElementSearch
