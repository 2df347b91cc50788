import ElementSearch.Proofs.Arena.Filing
import Mathlib.Data.List.Nodup

/-!
# Tidy indexes and attributes

What the indexes of a reachable arena file, `Filing` says. Here it is shown that they keep nothing besides:

- no name has two entries in an index,
- no entry is empty, and
- no element has two attributes of one name.

Setting an attribute takes the former names out one by one and files the new ones one by one, so each of these
steps is shown to keep an index tidy. Together both say exactly what stands in an index, whatever
ids and classes were written before and in whatever spelling.
-/

namespace ElementSearch

open Text

namespace Index

/-- No name has two entries, and none has an empty one. -/
structure IsTidy (index : Index) : Prop where
  nodup_names : (index.entries.map (·.1)).Nodup
  filed_ne_nil : ∀ entry ∈ index.entries, entry.2 ≠ []

/-- The empty index is tidy. -/
theorem IsTidy.empty : Index.empty.IsTidy where
  nodup_names := .nil
  filed_ne_nil := by
    intro entry member
    cases member

section Steps

variable {index : Index} (tidy : index.IsTidy)
include tidy

/-- The entry of a name takes the place of the former one, or is left out where nothing is filed. -/
theorem IsTidy.put (name : String) (filed : List Handle) : (index.put name filed).IsTidy := by
  have others : ((index.entries.filter fun entry => entry.1 ≠ name).map (·.1)).Nodup :=
    tidy.nodup_names.sublist (List.filter_sublist.map _)
  have othersFiled : ∀ entry ∈ index.entries.filter fun entry => entry.1 ≠ name, entry.2 ≠ [] :=
    fun entry member => tidy.filed_ne_nil entry (List.mem_of_mem_filter member)
  unfold Index.put
  by_cases nothing : filed = []
  · simp only [nothing, if_true]
    exact ⟨others, othersFiled⟩
  · simp only [nothing, if_false]
    constructor
    · refine List.nodup_cons.mpr ⟨fun again => ?_, others⟩
      obtain ⟨entry, member, same⟩ := List.mem_map.mp again
      exact of_decide_eq_true (List.mem_filter.mp member).2 same
    · exact List.forall_mem_cons.mpr ⟨nothing, othersFiled⟩

/-- Filing keeps an index tidy: the bucket it fills is not empty. -/
theorem IsTidy.file (name : String) (node : Handle) : (index.file name node).IsTidy := by
  unfold Index.file
  split
  · exact tidy
  · exact tidy.put name _

/-- Unfiling keeps an index tidy: a bucket it empties is dropped. -/
theorem IsTidy.unfile (name : String) (node : Handle) : (index.unfile name node).IsTidy :=
  tidy.put name _

/-- Refiling keeps an index tidy, by filing and unfiling one name at a time. -/
theorem IsTidy.refile (node : Handle) (former names : List String) :
    (index.refile node former names).IsTidy :=
  refile_induction (fun _ name earlier => earlier.file name node)
    (fun _ name earlier => earlier.unfile name node) tidy former names

end Steps

/-- Whether an index says exactly what a relation says: each node once under each of its names, and no name for
nothing. -/
structure IsExact (index : Index) (filed : String → Handle → Prop) : Prop extends index.IsTidy where
  mem_iff : ∀ name node, node ∈ index.nodes name ↔ filed name node
  count_eq_one : ∀ name, ∀ node ∈ index.nodes name, (index.nodes name).count node = 1

/-- A tidy index is exact for what it files. -/
theorem IsTidy.isExact {index : Index} {filed : String → Handle → Prop} (tidy : index.IsTidy)
    (files : index.Files filed) : index.IsExact filed where
  toIsTidy := tidy
  mem_iff name node := (files name).2 node
  count_eq_one name _ member := List.count_eq_one_of_mem (files name).1 member

end Index

namespace Element

/-- The names of attributes are unchanged where one of them is set again, and else the new one comes last. -/
theorem names_setEntry (name value : String) (entries : List (String × String)) :
    (setEntry name value entries).map (·.1) =
      if name ∈ entries.map (·.1) then entries.map (·.1) else entries.map (·.1) ++ [name] := by
  induction entries with
  | nil => simp [setEntry]
  | cons entry rest ih =>
    obtain ⟨key, earlier⟩ := entry
    by_cases same : key = name
    · simp [setEntry, same]
    · have differs : name ≠ key := fun eq => same eq.symm
      simp only [setEntry, if_neg same, List.map_cons, ih, List.mem_cons, differs, false_or]
      split <;> simp

/-- Writing an entry names no attribute twice. -/
theorem nodup_names_setEntry {entries : List (String × String)}
    (nodup : (entries.map (·.1)).Nodup) (name value : String) :
    ((setEntry name value entries).map (·.1)).Nodup := by
  rw [names_setEntry]
  split
  · exact nodup
  · next fresh =>
    rw [← List.concat_eq_append]
    exact nodup.concat fresh

end Element

namespace Arena

/-- The indexes of an arena are tidy, and the names of the attributes of a node differ. -/
structure IsTidy (arena : Arena) : Prop where
  ids : arena.ids.IsTidy
  classes : arena.classes.IsTidy
  nodup_names : ∀ node, ((arena.attributes node).map (·.1)).Nodup

/-- The empty arena is tidy. -/
theorem IsTidy.empty : IsTidy Arena.empty where
  ids := Index.IsTidy.empty
  classes := Index.IsTidy.empty
  nodup_names _ := .nil

section Invariant

variable {arena : Arena} (tidy : arena.IsTidy)
include tidy

/-- A change that keeps the attributes and the indexes keeps them tidy. -/
theorem IsTidy.of_same {after : Arena} (same : arena.SameNames after) : after.IsTidy where
  ids := same.ids ▸ tidy.ids
  classes := same.classes ▸ tidy.classes
  nodup_names node := by
    rw [same.attributes]
    exact tidy.nodup_names node

/-- Writing an attribute keeps both indexes tidy and the names of every element distinct. -/
theorem IsTidy.write {target : Handle} (element : (arena.element? target).isSome)
    (name value : String) : (arena.writeAttribute target name value).IsTidy where
  ids := by
    obtain ⟨former, names, same⟩ := arena.exists_ids_writeAttribute_eq target name value
    exact same ▸ tidy.ids.refile target former names
  classes := by
    obtain ⟨former, names, same⟩ := arena.exists_classes_writeAttribute_eq target name value
    exact same ▸ tidy.classes.refile target former names
  nodup_names node := by
    rw [arena.attributes_writeAttribute element]
    split
    · exact Element.nodup_names_setEntry (tidy.nodup_names node) _ value
    · exact tidy.nodup_names node

end Invariant

/-- In every reachable arena the indexes are tidy. -/
theorem Reachable.isTidy {arena : Arena} (reachable : arena.Reachable) : arena.IsTidy :=
  reachable.induction_names .empty (fun same tidy => tidy.of_same same)
    fun element name value tidy => tidy.write element name value

/-- In every reachable arena the index of ids says exactly which elements have which id that is not empty, the index
of classes says exactly which elements have which class, and no element has two attributes of one name. -/
theorem Reachable.indexes_exact {arena : Arena} (reachable : arena.Reachable) :
    arena.ids.IsExact (fun name node => ∃ element id, arena.element? node = some element ∧
        element.attributeValue "id" = some id ∧ id ≠ "" ∧ lowercased id = name) ∧
      arena.classes.IsExact (fun name node => ∃ element text, arena.element? node = some element ∧
        element.attributeValue "class" = some text ∧
          ∃ word ∈ words text, lowercased word = name) ∧
      ∀ node element, arena.element? node = some element →
        (∀ entry ∈ element.attributes, asciiLowercase entry.1 = entry.1) ∧
          (element.attributes.map (·.1)).Nodup := by
  have filed := reachable.isFiled
  have tidy := reachable.isTidy
  have attributeValue_iff : ∀ node name value, arena.attributeValue node name = some value ↔
      ∃ element, arena.element? node = some element ∧ element.attributeValue name = some value :=
    fun _ _ _ => Option.bind_eq_some_iff
  refine ⟨tidy.ids.isExact (filed.ids.congr fun name node => ?_),
    tidy.classes.isExact (filed.classes.congr fun name node => ?_), fun node element present => ?_⟩
  · rw [mem_idNames_iff]
    simp only [attributeValue_iff]
    grind
  · rw [mem_classNames_iff]
    simp only [attributeValue_iff]
    grind
  · have own : arena.attributes node = element.attributes := by
      rw [attributes, present]
      rfl
    exact own ▸ ⟨filed.folded node, tidy.nodup_names node⟩

section Respelled

/-- An element that was given two ids and two lists of classes, in different spellings. -/
def respelled : Arena :=
  empty.after
    [.createElement "p", .setAttribute 0 "ID" "First", .setAttribute 0 "Class" "wide Wide card",
      .setAttribute 0 "iD" "Second", .setAttribute 0 "CLASS" "CARD"]

theorem reachable_respelled : respelled.Reachable := ⟨_, rfl⟩

/-- Only the last id and the last class of the element are filed. -/
theorem indexes_respelled :
    0 ∈ respelled.ids.nodes "second" ∧ 0 ∉ respelled.ids.nodes "first" ∧
      (respelled.classes.nodes "card").count 0 = 1 ∧ 0 ∉ respelled.classes.nodes "wide" := by
  obtain ⟨ids, classes, _⟩ := reachable_respelled.indexes_exact
  have isId : respelled.attributeValue 0 "id" = some "Second" := by decide
  have isClass : respelled.attributeValue 0 "class" = some "CARD" := by decide
  obtain ⟨element, present, hasId⟩ := Option.bind_eq_some_iff.mp isId
  have hasClass : element.attributeValue "class" = some "CARD" := by
    rwa [Arena.attributeValue, present, Option.bind_some] at isClass
  refine ⟨?_, fun filed => ?_, classes.count_eq_one "card" 0 ?_, fun filed => ?_⟩
  · exact (ids.mem_iff "second" 0).mpr ⟨element, "Second", present, hasId, by decide, by decide⟩
  · obtain ⟨known, id, isKnown, knownId, _, same⟩ := (ids.mem_iff "first" 0).mp filed
    cases present.symm.trans isKnown
    cases hasId.symm.trans knownId
    exact absurd same (by decide)
  · exact (classes.mem_iff "card" 0).mpr
      ⟨element, "CARD", present, hasClass, "CARD", by decide, by decide⟩
  · obtain ⟨known, text, isKnown, knownText, word, isWord, same⟩ :=
      (classes.mem_iff "wide" 0).mp filed
    cases present.symm.trans isKnown
    cases hasClass.symm.trans knownText
    have only : ∀ word ∈ words "CARD", lowercased word ≠ "wide" := by decide
    exact only word isWord same

end Respelled

end Arena

end ElementSearch
