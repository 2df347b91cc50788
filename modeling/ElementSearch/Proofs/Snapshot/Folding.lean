import ElementSearch.Proofs.Arena.Folding
import ElementSearch.Proofs.Snapshot.Building

/-!
# Building without letter case

A snapshot is folded like an arena: its tags, ids and classes are written in small letters. Building the folded snapshot
into the folded arena is building the snapshot and folding what comes of it, also where the building stops
(`buildInto_folded`).
-/

namespace ElementSearch

open Text

/-- The fields of an element with its tag, its id and its classes in small letters. -/
def ElementFields.folded (fields : ElementFields) : ElementFields :=
  { fields with
    tag := asciiLowercase fields.tag
    attributes := fields.attributes.map foldedEntry }

mutual

/-- An element of a snapshot, folded with all that is below it and inside it. -/
def ElementSnapshot.folded : ElementSnapshot → ElementSnapshot
  | .mk fields children frame =>
    .mk fields.folded (ChildSnapshot.foldedList children) (match frame with
      | none => none
      | some page => some page.folded)

/-- The children of an element, folded. -/
def ChildSnapshot.foldedList : List ChildSnapshot → List ChildSnapshot
  | [] => []
  | .text text :: rest => .text text :: ChildSnapshot.foldedList rest
  | .element child :: rest => .element child.folded :: ChildSnapshot.foldedList rest

/-- A page with its elements folded. -/
def Snapshot.folded : Snapshot → Snapshot
  | .mk baseUrl root => .mk baseUrl root.folded

end

namespace Snapshot

open Arena

variable {α β : Type}

/-- Whether a step does to folded arenas what another one does to the arenas, and answers the same. -/
def Building.FoldsTo (step other : Building α) : Prop :=
  ∀ arena : Arena, other.on arena.folded = ((step.on arena).1, (step.on arena).2.folded)

theorem foldsTo_pure (value : α) : Building.FoldsTo (pure value) (pure value) := fun _ => rfl

/-- Builds that fold step by step fold as a whole. -/
theorem Building.FoldsTo.bind {step other : Building α} {next otherNext : α → Building β}
    (first : step.FoldsTo other) (second : ∀ value, (next value).FoldsTo (otherNext value)) :
    Building.FoldsTo (step >>= next) (other >>= otherNext) := by
  intro arena
  rw [on_bind, on_bind, first arena]
  rcases step.on arena with ⟨_ | value, built⟩
  · rfl
  · exact second value built

/-- Making a node folds where the operation that makes it does. -/
theorem foldsTo_making {make other : Arena → Arena × Handle}
    (folds : ∀ arena, other arena.folded = foldedFirst (make arena)) :
    (making make).FoldsTo (making other) := by
  intro arena
  rw [on_making, on_making, folds]
  rfl

/-- Performing an operation folds where the operation does. -/
theorem foldsTo_performing {operation other : Arena → Arena × Except TreeError Unit}
    (folds : ∀ arena, other arena.folded = foldedFirst (operation arena)) :
    (performing operation).FoldsTo (performing other) := by
  intro arena
  rw [on_performing, on_performing, folds]
  rfl

/-- Performing an operation on an optional value folds where the operation does for every value.
-/
theorem foldsTo_performingWith {wanted : Option α}
    {operation : α → Arena → Arena × Except TreeError Unit}
    (folds : ∀ value arena, operation value arena.folded = foldedFirst (operation value arena)) :
    (performingWith wanted operation).FoldsTo (performingWith wanted operation) := by
  cases wanted with
  | none => exact foldsTo_pure ()
  | some value => exact foldsTo_performing (folds value)

/-- A base URL is read alike, whether or not it can be read. -/
theorem foldsTo_readBaseUrl (baseUrl : Option String) :
    (readBaseUrl baseUrl).FoldsTo (readBaseUrl baseUrl) := by
  cases baseUrl with
  | none => exact foldsTo_pure none
  | some text =>
    unfold readBaseUrl
    dsimp only
    split
    · exact foldsTo_pure _
    · exact fun _ => rfl

/-- Setting a list of attributes folds to setting the folded ones. -/
theorem foldsTo_setAttributes (node : Handle) (entries : List (String × String)) :
    (setAttributes node entries).FoldsTo (setAttributes node (entries.map foldedEntry)) := by
  induction entries with
  | nil => exact foldsTo_pure ()
  | cons entry rest ih =>
    exact (foldsTo_performing fun _ => setAttribute_folded node entry.1 entry.2).bind fun _ => ih

/-- Building the fields of an element folds to building the folded ones. -/
theorem foldsTo_buildFields (fields : ElementFields) :
    (buildFields fields).FoldsTo (buildFields fields.folded) := by
  rw [buildFields_eq, buildFields_eq]
  refine (foldsTo_making fun _ => push_folded (.element (.plain fields.tag))).bind fun node => ?_
  refine (foldsTo_setAttributes node fields.attributes).bind fun _ => ?_
  refine (foldsTo_performingWith fun style _ =>
    restyle_folded ({ · with style }) (fun _ => rfl) node).bind fun _ => ?_
  refine (foldsTo_performingWith fun rect _ =>
    restyle_folded ({ · with rect := some rect }) (fun _ => rfl) node).bind fun _ => ?_
  exact (foldsTo_performingWith fun size _ =>
    restyle_folded ({ · with clientSize := some size }) (fun _ => rfl) node).bind fun _ => foldsTo_pure node

mutual

/-- Building a snapshot folds to building the folded snapshot. -/
theorem foldsTo_build : (snapshot : Snapshot) → (build snapshot).FoldsTo (build snapshot.folded)
  | .mk baseUrl root => by
    unfold Snapshot.folded build
    refine (foldsTo_readBaseUrl baseUrl).bind fun url => ?_
    refine (foldsTo_making fun _ => push_folded (.document url none)).bind fun document => ?_
    exact (foldsTo_buildElement root document).bind fun _ => foldsTo_pure document

/-- Building an element folds to building the folded element. -/
theorem foldsTo_buildElement : (snapshot : ElementSnapshot) → (parent : Handle) →
    (buildElement parent snapshot).FoldsTo (buildElement parent snapshot.folded)
  | .mk fields children frame, parent => by
    unfold ElementSnapshot.folded buildElement
    refine (foldsTo_buildFields fields).bind fun node => ?_
    refine (foldsTo_performing fun _ => appendChild_folded parent node).bind fun _ => ?_
    refine (foldsTo_buildChildren children node).bind fun _ => ?_
    match frame with
    | none => exact foldsTo_pure node
    | some page =>
      refine (foldsTo_build page).bind fun document => ?_
      exact (foldsTo_performing fun _ => attachFrame_folded node document).bind fun _ =>
        foldsTo_pure node

/-- Building a list of children folds to building the folded ones. -/
theorem foldsTo_buildChildren : (children : List ChildSnapshot) → (parent : Handle) →
    (buildChildren parent children).FoldsTo (buildChildren parent (ChildSnapshot.foldedList children))
  | [], _ => foldsTo_pure ()
  | .text text :: rest, parent => by
    unfold ChildSnapshot.foldedList buildChildren
    refine (foldsTo_making fun _ => addText_folded parent text).bind fun _ => ?_
    exact foldsTo_buildChildren rest parent
  | .element child :: rest, parent => by
    unfold ChildSnapshot.foldedList buildChildren
    refine (foldsTo_buildElement child parent).bind fun _ => ?_
    exact foldsTo_buildChildren rest parent

end

/-- A folded snapshot built into a folded arena gives the folded arena, and ends alike. -/
theorem buildInto_folded (snapshot : Snapshot) (arena : Arena) :
    snapshot.folded.buildInto arena.folded = foldedFirst (snapshot.buildInto arena) := by
  rw [buildInto_eq, buildInto_eq, foldsTo_build snapshot arena]
  rfl

end Snapshot

end ElementSearch
