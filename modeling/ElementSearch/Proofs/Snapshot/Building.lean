import ElementSearch.History.Operation
import ElementSearch.Proofs.Arena.Additions

/-!
# Running a build

A step of building is a function of the arena in which it is carried out. The laws of `Building.on` take
a build apart; `on_buildFields` says all that the first part of making an element does. A build, finished or
not, performs its operations on nodes of its own, so it is growth beside the nodes that were there before:
`growsBeside_buildInto`.
-/

namespace ElementSearch

open Text

/-- The element that fields describe, not a frame yet. -/
def ElementFields.element (fields : ElementFields) : Element where
  tag := fields.tag
  attributes := fields.attributes.foldl
    (fun entries (name, value) => Element.setEntry (asciiLowercase name) value entries) []
  style := fields.style.getD .unset
  rect := fields.rect
  clientSize := fields.clientSize
  frame := none

namespace Arena

/-- Whether an arena has grown by nothing but a detached element, which is newer than all that was there. -/
structure GrowsBy (before : Arena) (element : Element) (after : Arena) : Prop where
  adds : ∀ bound ≤ before.size, before.Adds bound after
  size : after.size = before.size + 1
  record? : ∀ node, after.record? node =
    if node = before.size then some (.detached (.element element)) else before.record? node

namespace GrowsBy

/-- A created element is plain and detached. -/
theorem createElement (arena : Arena) (tag : String) :
    GrowsBy arena (.plain tag) (arena.createElement tag).1 where
  adds _ le := arena.adds_push rfl le
  size := arena.size_push _
  record? := arena.record?_push _

variable {before after : Arena} {element : Element} (grown : GrowsBy before element after)
include grown

/-- What an arena has grown by is growth. -/
theorem grows : Grows before after :=
  (grown.adds 0 (Nat.zero_le _)).grows

/-- The arena has the element as its new, detached last node. -/
theorem hasNew : before.HasNew (.element element) after :=
  ⟨grown.size, grown.record?⟩

/-- The new node shows the element. -/
theorem element? : after.element? before.size = some element :=
  element?_of_record? grown.hasNew.record?_size

/-- A change of the new element is a change of what the arena has grown by. -/
theorem record?_modifyElement (change : Element → Element) (node : Handle) :
    (after.modifyElement before.size change).record? node =
      if node = before.size then some (.detached (.element (change element)))
      else before.record? node := by
  rw [modifyElement, record?_modifyRecord, grown.record?]
  split <;> rfl

/-- A change that keeps the identity of the new element is a change of what the arena grew by. -/
theorem restyle {change : Element → Element} (keeps : Element.KeepsIdentity change) :
    GrowsBy before (change element) (after.modifyElement before.size change) where
  adds _ le := (grown.adds _ le).trans (after.adds_modifyElement le keeps)
  size := (after.size_modifyElement _ _).trans grown.size
  record? := grown.record?_modifyElement change

/-- An attribute written to the new element is an attribute of what the arena grew by. -/
theorem write (name value : String) :
    GrowsBy before (element.withAttribute (asciiLowercase name) value)
      (after.writeAttribute before.size name value) where
  adds _ le := (grown.adds _ le).trans
    (after.adds_writeAttribute le (by simp [grown.element?]) name value)
  size := (after.size_writeAttribute _ _ _).trans grown.size
  record? := grown.record?_modifyElement _

/-- The new node is an element, so no change of it is refused. -/
theorem onElement (changed : Arena) :
    after.onElement before.size changed = (changed, .ok ()) := by
  simp [Arena.onElement, grown.element?]

end GrowsBy

end Arena

namespace Snapshot

open Arena

/-- What a step of building answers in an arena, and the arena that it leaves behind. -/
def Building.on {α : Type} (step : Building α) (arena : Arena) : Except SnapshotError α × Arena :=
  step.run.run arena

theorem buildInto_eq (snapshot : Snapshot) (arena : Arena) :
    snapshot.buildInto arena = ((build snapshot).on arena).swap := rfl

section Steps

variable {α β : Type} (arena : Arena)

/-- A sequence of steps goes on in the arena that the first one leaves behind, unless that one fails. -/
theorem on_bind (step : Building α) (next : α → Building β) :
    Building.on (step >>= next) arena =
      match step.on arena with
      | (.ok value, built) => (next value).on built
      | (.error error, built) => (.error error, built) := by
  unfold Building.on
  simp only [ExceptT.run_bind, StateT.run_bind]
  rcases StateT.run (ExceptT.run step) arena with ⟨_ | _, _⟩ <;> rfl

/-- After a step that succeeds, a build goes on with its value. -/
theorem on_bind_of_ok {step : Building α} {next : α → Building β} {built : Arena} {value : α}
    (succeeds : step.on arena = (.ok value, built)) :
    Building.on (step >>= next) arena = (next value).on built := by
  rw [on_bind, succeeds]

/-- A sequence of steps succeeds if each of them does. -/
theorem on_bind_eq_ok_iff {step : Building α} {next : α → Building β} {after : Arena} {result : β} :
    Building.on (step >>= next) arena = (.ok result, after) ↔
      ∃ value built, step.on arena = (.ok value, built) ∧
        (next value).on built = (.ok result, after) := by
  rw [on_bind]
  rcases step.on arena with ⟨_ | value, built⟩
  · simp
  · constructor
    · intro succeeds
      exact ⟨value, built, rfl, succeeds⟩
    · rintro ⟨_, _, same, succeeds⟩
      cases same
      exact succeeds

theorem on_making (make : Arena → Arena × Handle) :
    (making make).on arena = (.ok (make arena).2, (make arena).1) := rfl

theorem on_performing (operation : Arena → Arena × Except TreeError Unit) :
    (performing operation).on arena =
      ((operation arena).2.mapError .tree, (operation arena).1) := by
  have read : Building.on (get : Building Arena) arena = (.ok arena, arena) := rfl
  have stored : (set (operation arena).1 : Building Unit).on arena =
      (.ok (), (operation arena).1) := rfl
  rw [performing, on_bind_of_ok arena read]
  refine (on_bind_of_ok arena stored).trans ?_
  cases (operation arena).2 <;> rfl

/-- What holds after an operation holds after the step that performs it, even when it fails. -/
theorem holds_performing {Holds : Arena → Prop}
    {operation : Arena → Arena × Except TreeError Unit} (holds : Holds (operation arena).1) :
    Holds ((performing operation).on arena).2 := by
  rw [on_performing]
  exact holds

/-- Reading a base URL changes nothing. -/
theorem on_readBaseUrl (baseUrl : Option String) : ((readBaseUrl baseUrl).on arena).2 = arena := by
  cases baseUrl with
  | none => rfl
  | some text =>
    unfold readBaseUrl
    dsimp only
    split <;> rfl

/-- What holds of the arena that the first step leaves behind, and is kept by what follows if that step
succeeds, holds of the arena that both leave behind. -/
theorem holds_bind {Holds : Arena → Prop} {step : Building α} {next : α → Building β}
    (first : Holds (step.on arena).2)
    (second : ∀ value built, step.on arena = (.ok value, built) → Holds built →
      Holds ((next value).on built).2) :
    Holds (Building.on (step >>= next) arena).2 := by
  rw [on_bind]
  rcases ran : step.on arena with ⟨_ | value, built⟩
  · simpa [ran] using first
  · rw [ran] at first
    exact second value built ran first

/-- A step that spares older nodes, followed by one that does so if the first one succeeds, spares them. -/
theorem growsBeside_bind {bound : Nat} {step : Building α} {next : α → Building β}
    (first : arena.GrowsBeside bound (step.on arena).2)
    (second : ∀ value built, step.on arena = (.ok value, built) → arena.GrowsBeside bound built →
      built.GrowsBeside bound ((next value).on built).2) :
    arena.GrowsBeside bound (Building.on (step >>= next) arena).2 :=
  holds_bind arena first fun value built ran beside => beside.trans (second value built ran beside)

end Steps

section Fields

variable {before after : Arena} {element : Element}

/-- Setting attributes of the new element always succeeds. -/
theorem on_setAttributes (grown : GrowsBy before element after) (entries : List (String × String)) :
    ∃ built, (setAttributes before.size entries).on after = (.ok (), built) ∧
      GrowsBy before { element with
        attributes := entries.foldl (fun known (name, value) =>
          Element.setEntry (asciiLowercase name) value known) element.attributes } built := by
  induction entries generalizing after element with
  | nil => exact ⟨after, rfl, grown⟩
  | cons entry rest ih =>
    obtain ⟨built, succeeds, further⟩ := ih (grown.write entry.1 entry.2)
    refine ⟨built, ?_, further⟩
    have first : (performing (·.setAttribute before.size entry.1 entry.2)).on after =
        (.ok (), after.writeAttribute before.size entry.1 entry.2) := by
      rw [on_performing, setAttribute, grown.onElement]
      rfl
    exact (on_bind_of_ok after first).trans succeeds

/-- Performs an operation with a value, if there is one. -/
def performingWith {α : Type} (wanted : Option α)
    (operation : α → Arena → Arena × Except TreeError Unit) : Building Unit :=
  wanted.elim (pure ()) fun value => performing (operation value)

/-- The fields of an element are built in the order of the snapshot: attributes, style, rectangle,
client size. -/
theorem buildFields_eq (fields : ElementFields) :
    buildFields fields = (do
      let node ← making (·.createElement fields.tag)
      setAttributes node fields.attributes
      performingWith fields.style fun style arena => arena.setStyle node style
      performingWith fields.rect fun rect arena => arena.setRect node rect
      performingWith fields.clientSize fun size arena => arena.setClientSize node size
      pure node) := by
  unfold buildFields performingWith
  cases fields.style <;> cases fields.rect <;> cases fields.clientSize <;> rfl

/-- A change of looks of the new element, if there is one to make, always succeeds. -/
theorem on_performingWith {α : Type} (grown : GrowsBy before element after) (wanted : Option α)
    (operation : α → Arena → Arena × Except TreeError Unit) (change : α → Element → Element)
    (keeps : ∀ value, Element.KeepsIdentity (change value))
    (isChange : ∀ value, operation value after =
      after.onElement before.size (after.modifyElement before.size (change value))) :
    ∃ built, (performingWith wanted operation).on after = (.ok (), built) ∧
      GrowsBy before (wanted.elim element fun value => change value element) built := by
  cases wanted with
  | none => exact ⟨after, rfl, grown⟩
  | some value =>
    refine ⟨_, ?_, grown.restyle (keeps value)⟩
    rw [performingWith, Option.elim_some, on_performing, isChange, grown.onElement]
    rfl

/-- Making an element with its fields always succeeds. The arena grows by that element only. -/
theorem on_buildFields (fields : ElementFields) (arena : Arena) :
    ∃ built, (buildFields fields).on arena = (.ok arena.size, built) ∧
      GrowsBy arena fields.element built := by
  obtain ⟨written, writes, grownWritten⟩ :=
    on_setAttributes (.createElement arena fields.tag) fields.attributes
  obtain ⟨styled, styles, grownStyled⟩ := on_performingWith grownWritten fields.style
    (fun style built => built.setStyle arena.size style)
    (fun style element => { element with style }) (fun _ _ => ⟨rfl, rfl, rfl⟩) fun _ => rfl
  obtain ⟨boxed, boxes, grownBoxed⟩ := on_performingWith grownStyled fields.rect
    (fun rect built => built.setRect arena.size rect)
    (fun rect element => { element with rect := some rect }) (fun _ _ => ⟨rfl, rfl, rfl⟩)
    fun _ => rfl
  obtain ⟨sized, sizes, grownSized⟩ := on_performingWith grownBoxed fields.clientSize
    (fun size built => built.setClientSize arena.size size)
    (fun size element => { element with clientSize := some size }) (fun _ _ => ⟨rfl, rfl, rfl⟩)
    fun _ => rfl
  refine ⟨sized, ?_, ?_⟩
  · rw [buildFields_eq, on_bind_of_ok arena (on_making arena _)]
    refine (on_bind_of_ok _ writes).trans ((on_bind_of_ok _ styles).trans ?_)
    exact (on_bind_of_ok _ boxes).trans (on_bind_of_ok _ sizes)
  · cases fields with
    | mk tag entries style rect clientSize =>
      cases style <;> cases rect <;> cases clientSize <;> exact grownSized

end Fields

/-- Builds the page inside an element, if there is one, and embeds it. -/
def buildFrame (node : Handle) : Option Snapshot → Building Unit
  | none => pure ()
  | some page => do
    let document ← build page
    performing (·.attachFrame node document)

/-- An element is built before it is appended, and its children and its frame after that. -/
theorem buildElement_eq (parent : Handle) (fields : ElementFields)
    (children : List ChildSnapshot) (frame : Option Snapshot) :
    buildElement parent (.mk fields children frame) = (do
      let node ← buildFields fields
      performing (·.appendChild parent node)
      buildChildren node children
      buildFrame node frame
      pure node) := by
  cases frame with
  | none => rfl
  | some page =>
    unfold buildElement buildFrame
    simp only [bind_assoc]

section Growth

/-- The document of a page is made before its other nodes. -/
theorem document_of_build {snapshot : Snapshot} {before after : Arena} {document : Handle}
    (succeeds : (build snapshot).on before = (.ok document, after)) : document = before.size := by
  obtain ⟨baseUrl, root⟩ := snapshot
  unfold build at succeeds
  obtain ⟨url, read, reads, rest⟩ := (on_bind_eq_ok_iff _).mp succeeds
  have same : read = before := by
    rw [← on_readBaseUrl before baseUrl, reads]
  obtain ⟨_, created, makes, rest⟩ := (on_bind_eq_ok_iff _).mp rest
  cases makes
  obtain ⟨_, built, _, rest⟩ := (on_bind_eq_ok_iff _).mp rest
  cases rest
  exact congrArg Arena.size same

variable {bound : Nat}

-- A build hands on handles of its own only, so the bound stays where it is through the whole recursion.
mutual

/-- Building a page is growth beside older nodes, whether it is finished or not. -/
theorem growsBeside_build : (snapshot : Snapshot) → (arena : Arena) → bound ≤ arena.size →
    arena.GrowsBeside bound ((build snapshot).on arena).2
  | .mk baseUrl root, arena, le => by
    unfold build
    refine growsBeside_bind arena (by rw [on_readBaseUrl]; exact .refl arena) fun url read _ beside => ?_
    have readLe := Nat.le_trans le beside.spares.size_le
    have created : read.Adds bound (read.createDocument url).1 := read.adds_push rfl readLe
    refine growsBeside_bind read created.toGrowsBeside fun document created makes beside => ?_
    cases makes
    refine growsBeside_bind _ ?_ fun _ built _ _ => .refl built
    exact growsBeside_buildElement root read.size _ readLe (Nat.le_trans readLe beside.spares.size_le)

/-- Building an element below a newer node is growth beside older nodes. -/
theorem growsBeside_buildElement : (snapshot : ElementSnapshot) → (parent : Handle) →
    (arena : Arena) → bound ≤ parent → bound ≤ arena.size →
    arena.GrowsBeside bound ((buildElement parent snapshot).on arena).2
  | .mk fields children frame, parent, arena, newerParent, le => by
    obtain ⟨described, describes, grown⟩ := on_buildFields fields arena
    have describedLe := Nat.le_trans le (grown.adds bound le).spares.size_le
    rw [buildElement_eq, on_bind_of_ok arena describes]
    refine (grown.adds bound le).toGrowsBeside.trans (growsBeside_bind described
      (holds_performing described ?_) fun _ adopted _ beside => ?_)
    · exact (described.adds_appendChild grown.hasNew.parent_size grown.hasNew.children_size
        newerParent le).toGrowsBeside
    have adoptedLe := Nat.le_trans describedLe beside.spares.size_le
    refine growsBeside_bind adopted
      (growsBeside_buildChildren children arena.size adopted le adoptedLe) fun _ filled _ beside => ?_
    have filledLe := Nat.le_trans adoptedLe beside.spares.size_le
    refine growsBeside_bind filled ?_ fun _ framed _ _ => .refl framed
    match frame with
    | none => exact .refl filled
    | some page =>
      refine growsBeside_bind filled (growsBeside_build page filled filledLe)
        fun document built builds _ => ?_
      obtain rfl := document_of_build builds
      exact holds_performing built (built.growsBeside_attachFrame le filledLe)

/-- Building children below a newer node is growth beside older nodes. -/
theorem growsBeside_buildChildren : (children : List ChildSnapshot) → (parent : Handle) →
    (arena : Arena) → bound ≤ parent → bound ≤ arena.size →
    arena.GrowsBeside bound ((buildChildren parent children).on arena).2
  | [], _, arena, _, _ => .refl arena
  | .text text :: rest, parent, arena, newerParent, le => by
    unfold buildChildren
    exact growsBeside_bind arena (arena.adds_addText le newerParent text).toGrowsBeside
      fun _ built _ beside => growsBeside_buildChildren rest parent built newerParent
        (Nat.le_trans le beside.spares.size_le)
  | .element child :: rest, parent, arena, newerParent, le => by
    unfold buildChildren
    exact growsBeside_bind arena (growsBeside_buildElement child parent arena newerParent le)
      fun _ built _ beside => growsBeside_buildChildren rest parent built newerParent
        (Nat.le_trans le beside.spares.size_le)

end

/-- Building a page is growth beside all that was there before. -/
theorem growsBeside_buildInto (snapshot : Snapshot) (arena : Arena) :
    arena.GrowsBeside arena.size (snapshot.buildInto arena).1 :=
  growsBeside_build snapshot arena (Nat.le_refl arena.size)

end Growth

end Snapshot

end ElementSearch
