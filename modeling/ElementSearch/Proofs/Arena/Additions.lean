import ElementSearch.Proofs.Arena.FrameLinks
import ElementSearch.Proofs.Arena.Sparing

/-!
# What operations add

Each operation is shown once to do three things at the same time: it makes the arena grow by primitive changes, it
spares the nodes that are older than those that it is given or makes (`Sparing`), and it leaves the links between frames
and documents as they are (`FrameLinks`). `Adds` puts the three together and is closed under composition, so the
lemmas follow the definitions of the operations. An attachment changes such links and does the first two only
(`GrowsBeside`). A move is an addition as long as the node has no links of its own.
-/

namespace ElementSearch

namespace Arena

/-- Whether an arena has grown without regard to the nodes up to a handle. -/
structure GrowsBeside (bound : Nat) (before after : Arena) : Prop where
  grows : Grows before after
  spares : before.Spares bound after

/-- Whether an arena has grown like that and has kept all links between frames and documents. -/
structure Adds (bound : Nat) (before after : Arena) : Prop extends before.GrowsBeside bound after where
  sameFrames : before.SameFrames after

section Composition

variable {bound : Nat} {before between after : Arena}

theorem GrowsBeside.refl (arena : Arena) : arena.GrowsBeside bound arena :=
  ⟨.refl, .refl arena⟩

/-- Growth beside the first `bound` nodes composes. -/
theorem GrowsBeside.trans (first : before.GrowsBeside bound between)
    (second : between.GrowsBeside bound after) : before.GrowsBeside bound after :=
  ⟨first.grows.trans second.grows, first.spares.trans second.spares⟩

theorem Adds.refl (arena : Arena) : arena.Adds bound arena :=
  ⟨.refl arena, .refl arena⟩

/-- Additions beside the first `bound` nodes compose. -/
theorem Adds.trans (first : before.Adds bound between) (second : between.Adds bound after) :
    before.Adds bound after :=
  ⟨first.toGrowsBeside.trans second.toGrowsBeside, first.sameFrames.trans second.sameFrames⟩

end Composition

variable {bound : Nat} (arena : Arena)

section Changes

/-- A bare node is an addition. -/
theorem adds_push {content : Content} (bare : content.IsBare) (le : bound ≤ arena.size) :
    arena.Adds bound (arena.push content).1 :=
  ⟨⟨.single (.create bare), arena.spares_push le content⟩, arena.sameFrames_push bare⟩

/-- Adopting a newer node without links below a newer one is an addition. -/
theorem adds_appendChild {parent child : Handle} (loose : arena.parent child = none)
    (childless : arena.children child = []) (newerParent : bound ≤ parent) (newer : bound ≤ child) :
    arena.Adds bound (arena.appendChild parent child).1 := by
  rcases arena.appendChild_cases parent child with ⟨error, failed⟩ | ⟨accepted, moved⟩
  · rw [failed]
    exact .refl arena
  · rw [moved]
    exact ⟨⟨.single (.adopt accepted loose childless), arena.spares_attach newer newerParent loose⟩,
      arena.sameFrames_attach parent child⟩

variable {node : Handle} (newer : bound ≤ node)
include newer

/-- An attribute of a newer element is an addition. -/
theorem adds_writeAttribute (element : (arena.element? node).isSome) (name value : String) :
    arena.Adds bound (arena.writeAttribute node name value) :=
  ⟨⟨.single (.write element name value), arena.spares_writeAttribute newer name value⟩,
    arena.sameFrames_writeAttribute node name value⟩

/-- Other looks of a newer element are an addition. -/
theorem adds_modifyElement {change : Element → Element} (keeps : Element.KeepsIdentity change) :
    arena.Adds bound (arena.modifyElement node change) :=
  ⟨⟨.single (.restyle node keeps), arena.spares_modifyRecord newer _⟩,
    arena.sameFrames_modifyElement node change fun element => (keeps element).2.2⟩

/-- The attributes of a newer element are additions one after the other. -/
theorem adds_writeAttributes (element : (arena.element? node).isSome)
    (attributes : List (String × String)) :
    arena.Adds bound (arena.writeAttributes node attributes) := by
  induction attributes generalizing arena with
  | nil => exact .refl arena
  | cons entry rest ih =>
    rw [writeAttributes_cons]
    exact (arena.adds_writeAttribute newer element entry.1 entry.2).trans
      (ih _ (arena.element?_isSome_writeAttribute element entry.1 entry.2))

end Changes

section Operations

variable {node parent : Handle}

/-- A change that only an element admits is an addition if it is one for elements. -/
theorem adds_onElement {changed : Arena}
    (adds : (arena.element? node).isSome → arena.Adds bound changed) :
    arena.Adds bound (arena.onElement node changed).1 := by
  unfold onElement
  split
  · next element => exact adds element
  · exact .refl arena

/-- Setting an attribute of a newer node is an addition. -/
theorem adds_setAttribute (newer : bound ≤ node) (name value : String) :
    arena.Adds bound (arena.setAttribute node name value).1 :=
  arena.adds_onElement fun element => arena.adds_writeAttribute newer element name value

/-- Setting the style, the box or the client area of a newer node is an addition. -/
theorem adds_restyle (newer : bound ≤ node) {change : Element → Element}
    (keeps : Element.KeepsIdentity change) :
    arena.Adds bound (arena.onElement node (arena.modifyElement node change)).1 :=
  arena.adds_onElement fun _ => arena.adds_modifyElement newer keeps

variable (le : bound ≤ arena.size) (newerParent : bound ≤ parent)
include le newerParent

/-- An element with its attributes below a newer node is an addition. -/
theorem adds_addElement (tag : String) (attributes : List (String × String)) :
    arena.Adds bound (arena.addElement parent tag attributes).1 := by
  have described := (arena.createElement tag).1.adds_writeAttributes le
    (arena.element?_isSome_createElement tag) attributes
  have created : arena.Adds bound (arena.createElement tag).1 := arena.adds_push rfl le
  refine created.trans (described.trans (adds_appendChild _ ?_ ?_ newerParent le))
  · rw [parent_writeAttributes, createElement, parent_push]
    exact arena.parent_size
  · rw [children_writeAttributes, createElement, children_push]
    exact arena.children_size

/-- A text below a newer node is an addition. -/
theorem adds_addText (text : String) : arena.Adds bound (arena.addText parent text).1 := by
  have created : arena.Adds bound (arena.createText text).1 := arena.adds_push trivial le
  refine created.trans (adds_appendChild _ ?_ ?_ newerParent le)
  · rw [createText, parent_push]
    exact arena.parent_size
  · rw [createText, children_push]
    exact arena.children_size

end Operations

/-- Attaching newer nodes to each other is growth, whether or not it succeeds. A document learns of its frame even if the
frame turns out to be no element. -/
theorem growsBeside_attachFrame {frame document : Handle} (newerFrame : bound ≤ frame)
    (newerDocument : bound ≤ document) :
    arena.GrowsBeside bound (arena.attachFrame frame document).1 := by
  have owned : arena.GrowsBeside bound (arena.setFrameOwner document frame) :=
    ⟨.single (.own document frame), arena.spares_modifyRecord newerDocument _⟩
  rcases arena.attachFrame_cases frame document with
    ⟨_, fails⟩ | ⟨_, _, fails⟩ | ⟨isDocument, _, links⟩
  · rw [fails]
    exact .refl arena
  · rw [fails]
    exact owned
  · rw [links]
    have stillDocument : (arena.setFrameOwner document frame).kind document = .document := by
      rwa [kind_setFrameOwner]
    exact owned.trans ⟨.single (.embed stillDocument frame), spares_modifyRecord _ newerFrame _⟩

end Arena

end ElementSearch
