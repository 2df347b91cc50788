import ElementSearch.Proofs.Arena.Records
import Mathlib.Logic.Relation

/-!
# Growth of arenas

Operations are made of a few primitive changes. All of them but one are kinds of growth: a bare node is made,
an element is described, a document learns of its frame or a frame of its document, or a node without links
of its own is adopted. What is left is the move of a node that may have links, which only `appendChild` makes.
An invariant of arenas is shown for each primitive change, never for the operations.
-/

namespace ElementSearch

/-- Whether content is as a node has it that was just made. -/
def Content.IsBare : Content → Prop
  | .document _ owner => owner = none
  | .element known => known = .plain known.tag
  | .text _ => True

/-- Whether a change of an element concerns nothing but its looks. -/
def Element.KeepsIdentity (change : Element → Element) : Prop :=
  ∀ element, (change element).tag = element.tag ∧
    (change element).attributes = element.attributes ∧ (change element).frame = element.frame

namespace Arena

/-- A primitive change other than the move of a node that has links. -/
inductive Growth : Arena → Arena → Prop where
  | create {arena : Arena} {content : Content} (bare : content.IsBare) :
      Growth arena (arena.push content).1
  | write {arena : Arena} {node : Handle} (element : (arena.element? node).isSome)
      (name value : String) : Growth arena (arena.writeAttribute node name value)
  | restyle {arena : Arena} (node : Handle) {change : Element → Element}
      (keeps : Element.KeepsIdentity change) : Growth arena (arena.modifyElement node change)
  | own {arena : Arena} (document owner : Handle) :
      Growth arena (arena.setFrameOwner document owner)
  | embed {arena : Arena} {document : Handle} (isDocument : arena.kind document = .document)
      (frame : Handle) :
      Growth arena (arena.modifyElement frame ({ · with frame := some document }))
  | adopt {arena : Arena} {parent child : Handle}
      (accepted : arena.appendError? parent child = none) (loose : arena.parent child = none)
      (childless : arena.children child = []) : Growth arena (arena.attach parent child)

/-- Any number of primitive changes. -/
abbrev Grows : Arena → Arena → Prop :=
  Relation.ReflTransGen Growth

variable (arena : Arena)

/-- Appending is allowed exactly for two nodes of the arena, unless the child is a document or is
seen above the parent. -/
theorem appendError?_eq_none_iff {parent child : Handle} :
    arena.appendError? parent child = none ↔
      parent < arena.size ∧ child < arena.size ∧ arena.kind child ≠ .document ∧
        ¬ arena.outline.contains child parent := by
  rw [← arena.record?_isSome_iff parent, ← arena.record?_isSome_iff child,
    Option.isSome_iff_ne_none, Option.isSome_iff_ne_none]
  unfold appendError?
  split
  · simp_all
  · split
    · simp_all
    · split <;> simp_all

/-- A move either fails and changes nothing, or was accepted. -/
theorem appendChild_cases (parent child : Handle) :
    (∃ error, arena.appendChild parent child = (arena, .error error)) ∨
      arena.appendError? parent child = none ∧
        arena.appendChild parent child = (arena.attach parent child, .ok ()) := by
  unfold appendChild
  split
  · next error _ => exact .inl ⟨error, rfl⟩
  · next accepted => exact .inr ⟨accepted, rfl⟩

/-- Growth keeps all nodes and their kinds. -/
theorem Growth.kind_eq {before after : Arena} (growth : Growth before after) {node : Handle}
    (lt : node < before.size) : node < after.size ∧ after.kind node = before.kind node := by
  cases growth with
  | create bare =>
    rw [size_push, kind_push, if_neg (Nat.ne_of_lt lt)]
    exact ⟨Nat.lt_succ_of_lt lt, rfl⟩
  | _ => simp [lt]

/-- A node of the arena keeps its kind as the arena grows. -/
theorem Grows.kind_eq {before after : Arena} (grows : Grows before after) {node : Handle}
    (lt : node < before.size) : node < after.size ∧ after.kind node = before.kind node := by
  induction grows with
  | refl => exact ⟨lt, rfl⟩
  | tail _ last ih =>
    obtain ⟨stillThere, same⟩ := last.kind_eq ih.1
    exact ⟨stillThere, same.trans ih.2⟩

/-- Nothing is linked to a handle that names no node. -/
theorem parent_size : arena.parent arena.size = none := by
  rw [parent, (arena.record?_eq_none_iff _).mpr (Nat.le_refl _)]
  rfl

/-- A handle not yet given has no children. -/
theorem children_size : arena.children arena.size = [] := by
  rw [children, (arena.record?_eq_none_iff _).mpr (Nat.le_refl _)]
  rfl

/-- Sets attributes of an element one after the other. -/
def writeAttributes (node : Handle) (attributes : List (String × String)) : Arena :=
  attributes.foldl (fun arena (name, value) => arena.writeAttribute node name value) arena

section WriteAttributes

variable (node : Handle) (attributes : List (String × String))

theorem writeAttributes_cons (name value : String) :
    arena.writeAttributes node ((name, value) :: attributes) =
      (arena.writeAttribute node name value).writeAttributes node attributes := rfl

/-- Writing attributes moves no node. -/
@[simp] theorem parent_writeAttributes :
    (arena.writeAttributes node attributes).parent = arena.parent := by
  induction attributes generalizing arena with
  | nil => rfl
  | cons entry rest ih => rw [writeAttributes_cons, ih, parent_writeAttribute]

/-- Writing attributes keeps every list of children. -/
@[simp] theorem children_writeAttributes :
    (arena.writeAttributes node attributes).children = arena.children := by
  induction attributes generalizing arena with
  | nil => rfl
  | cons entry rest ih => rw [writeAttributes_cons, ih, children_writeAttribute]

variable {node}

/-- An element stays an element when an attribute is written. -/
theorem element?_isSome_writeAttribute (element : (arena.element? node).isSome)
    (name value : String) :
    ((arena.writeAttribute node name value).element? node).isSome := by
  rw [element?_writeAttribute, if_pos rfl, Option.isSome_map]
  exact element

end WriteAttributes

/-- An element that was just made is one. -/
theorem element?_isSome_createElement (tag : String) :
    ((arena.createElement tag).1.element? arena.size).isSome := by
  rw [createElement, element?_push, if_pos rfl]
  rfl

end Arena

end ElementSearch
