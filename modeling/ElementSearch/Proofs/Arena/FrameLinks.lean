import ElementSearch.Arena.Host
import ElementSearch.Proofs.Arena.Growth
import Mathlib.Tactic.ByContra

/-!
# Links between frames and documents

A frame element names the document inside it, and a document names the frame around it. `HasMutualFrames` says that
these are two ends of the same links. A document that is embedded in a frame takes the place of what both ends named
before, but the former partners keep their own ends. So an attachment that succeeds keeps the links mutual if and only
if neither partner had another one: `hasMutualFrames_linkFrame_iff`. One that fails because the frame is no element has
told the document already, and never keeps them.
-/

namespace ElementSearch

namespace Arena

/-- Frames and documents name each other. -/
def HasMutualFrames (arena : Arena) : Prop :=
  ∀ frame document,
    arena.host.contentDocument frame = some document ↔ arena.frameOwner document = some frame

/-- Whether two arenas have the same links between frames and documents. -/
structure SameFrames (before after : Arena) : Prop where
  contentDocument : after.host.contentDocument = before.host.contentDocument
  frameOwner : after.frameOwner = before.frameOwner

/-- The arena in which a document has become the content of a frame. -/
def linkFrame (arena : Arena) (frame document : Handle) : Arena :=
  (arena.setFrameOwner document frame).modifyElement frame ({ · with frame := some document })

/-- Whether an attachment leaves a link with one end only: the frame is no element, or it holds another document, or
the document stands in another frame. -/
def StrandsFrame (arena : Arena) (frame document : Handle) : Prop :=
  arena.kind document = .document ∧
    (arena.kind frame ≠ .element ∨
      (∃ other ≠ document, arena.host.contentDocument frame = some other) ∨
      ∃ other ≠ frame, arena.frameOwner document = some other)

theorem contentDocument_eq (arena : Arena) (node : Handle) :
    arena.host.contentDocument node = (arena.element? node).bind (·.frame) := rfl

namespace SameFrames

variable {before between after : Arena}

theorem refl (arena : Arena) : arena.SameFrames arena := ⟨rfl, rfl⟩

/-- Arenas with the same frames pairwise have the same frames throughout. -/
theorem trans (first : before.SameFrames between) (second : between.SameFrames after) :
    before.SameFrames after :=
  ⟨second.contentDocument.trans first.contentDocument, second.frameOwner.trans first.frameOwner⟩

/-- Arenas with the same contents have the same frames. -/
theorem of_content?_eq (same : after.content? = before.content?) : before.SameFrames after := by
  constructor
  · funext node
    rw [contentDocument_eq, contentDocument_eq, element?_eq_of_content?_eq same]
  · funext node
    rw [Arena.frameOwner, Arena.frameOwner, same]

/-- Mutual frames are kept by every step that keeps the frames. -/
theorem hasMutualFrames (same : before.SameFrames after) (paired : before.HasMutualFrames) :
    after.HasMutualFrames := by
  unfold HasMutualFrames
  rw [same.contentDocument, same.frameOwner]
  exact paired

end SameFrames

section Changes

variable (arena : Arena)

/-- A node that was just made has no partner. -/
theorem sameFrames_push {content : Content} (bare : content.IsBare) :
    arena.SameFrames (arena.push content).1 := by
  constructor
  · funext node
    rw [contentDocument_eq, contentDocument_eq, element?_push]
    split
    · next same =>
      rw [same, element?_size]
      cases content with
      | element known =>
        rw [show known = .plain known.tag from bare]
        rfl
      | _ => rfl
    · rfl
  · funext node
    rw [Arena.frameOwner, Arena.frameOwner, content?_push]
    split
    · next same =>
      rw [same, content?_size]
      cases content with
      | document baseUrl owner => exact bare
      | _ => rfl
    · rfl

/-- A change of an element that keeps what is inside keeps all links. -/
theorem sameFrames_modifyElement (target : Handle) (change : Element → Element)
    (keeps : ∀ element, (change element).frame = element.frame) :
    arena.SameFrames (arena.modifyElement target change) := by
  refine ⟨?_, arena.frameOwner_modifyElement target change⟩
  funext node
  rw [contentDocument_eq, contentDocument_eq, element?_modifyElement]
  split
  · cases arena.element? node with
    | none => rfl
    | some element => exact keeps element
  · rfl

/-- Writing an attribute keeps all frames. -/
theorem sameFrames_writeAttribute (target : Handle) (name value : String) :
    arena.SameFrames (arena.writeAttribute target name value) := by
  have written := arena.sameFrames_modifyElement target
    (·.withAttribute (Text.asciiLowercase name) value) fun _ => rfl
  exact ⟨written.contentDocument, written.frameOwner⟩

/-- A move changes no content. -/
theorem sameFrames_attach (parent child : Handle) :
    arena.SameFrames (arena.attach parent child) :=
  .of_content?_eq (arena.content?_attach parent child)

/-- A change that only an element admits is made if there is one, and else nothing is changed. -/
theorem onElement_cases (node : Handle) (changed : Arena) :
    arena.kind node = .element ∧ arena.onElement node changed = (changed, .ok ()) ∨
      arena.kind node ≠ .element ∧
        arena.onElement node changed = (arena, .error (.notAnElement node)) := by
  unfold onElement
  split
  · next element => exact .inl ⟨(arena.element?_isSome_iff node).mp element, rfl⟩
  · next other => exact .inr ⟨mt (arena.element?_isSome_iff node).mpr other, rfl⟩

end Changes

section Attachment

variable (arena : Arena)

/-- An attachment fails before it changes anything, or fails after the document has learned of its owner, or links
both partners. -/
theorem attachFrame_cases (frame document : Handle) :
    arena.kind document ≠ .document ∧
        arena.attachFrame frame document = (arena, .error (.notADocument document)) ∨
      arena.kind document = .document ∧ arena.kind frame ≠ .element ∧
        arena.attachFrame frame document =
          (arena.setFrameOwner document frame, .error (.notAnElement frame)) ∨
      arena.kind document = .document ∧ arena.kind frame = .element ∧
        arena.attachFrame frame document = (arena.linkFrame frame document, .ok ()) := by
  unfold attachFrame
  split
  · next isDocument =>
    refine .inr ?_
    rcases (arena.setFrameOwner document frame).onElement_cases frame
      (arena.linkFrame frame document) with ⟨isElement, links⟩ | ⟨other, fails⟩
    · rw [kind_setFrameOwner] at isElement
      exact .inr ⟨isDocument, isElement, links⟩
    · rw [kind_setFrameOwner] at other
      exact .inl ⟨isDocument, other, fails⟩
  · next other => exact .inl ⟨other, rfl⟩

variable {arena} {frame document : Handle}

/-- Naming an owner changes the owner of that document only. -/
theorem frameOwner_setFrameOwner (isDocument : arena.kind document = .document) (node : Handle) :
    (arena.setFrameOwner document frame).frameOwner node =
      if node = document then some frame else arena.frameOwner node := by
  unfold frameOwner
  rw [content?_setFrameOwner]
  split
  · next same =>
    unfold kind at isDocument
    rw [← same] at isDocument
    cases present : arena.content? node with
    | none => simp [present] at isDocument
    | some content => cases content <;> simp_all [Content.kind, Content.frameOwner?]
  · rfl

/-- Naming an owner changes no content document. -/
theorem contentDocument_setFrameOwner :
    (arena.setFrameOwner document frame).host.contentDocument = arena.host.contentDocument := by
  funext node
  rw [contentDocument_eq, contentDocument_eq, element?_setFrameOwner]

/-- Linking a frame makes it the owner of the document and changes no other owner. -/
theorem frameOwner_linkFrame (isDocument : arena.kind document = .document) (node : Handle) :
    (arena.linkFrame frame document).frameOwner node =
      if node = document then some frame else arena.frameOwner node := by
  rw [linkFrame, frameOwner_modifyElement, frameOwner_setFrameOwner isDocument]

/-- Linking a frame makes the document its content document and changes no other one. -/
theorem contentDocument_linkFrame (isElement : arena.kind frame = .element) (node : Handle) :
    (arena.linkFrame frame document).host.contentDocument node =
      if node = frame then some document else arena.host.contentDocument node := by
  rw [contentDocument_eq, linkFrame, element?_modifyElement, element?_setFrameOwner]
  split
  · next same =>
    obtain ⟨element, present⟩ :=
      Option.isSome_iff_exists.mp ((arena.element?_isSome_iff frame).mpr isElement)
    rw [same, present]
    rfl
  · rfl

/-- Only elements hold documents. -/
theorem kind_of_contentDocument {inner : Handle}
    (holds : arena.host.contentDocument frame = some inner) : arena.kind frame = .element := by
  obtain ⟨element, present, _⟩ := Option.bind_eq_some_iff.mp holds
  rw [← element?_isSome_iff, present]
  rfl

/-- A document that learns of an owner which is no element has a link with one end only. -/
theorem not_hasMutualFrames_setFrameOwner (isDocument : arena.kind document = .document)
    (other : arena.kind frame ≠ .element) :
    ¬ (arena.setFrameOwner document frame).HasMutualFrames := by
  intro linked
  have stale := (linked frame document).mpr
  rw [frameOwner_setFrameOwner isDocument, if_pos rfl, contentDocument_setFrameOwner] at stale
  exact other (kind_of_contentDocument (stale rfl))

variable (paired : arena.HasMutualFrames) (isDocument : arena.kind document = .document)
include paired isDocument

/-- Linking two partners keeps the links mutual if and only if neither had another partner. -/
theorem hasMutualFrames_linkFrame_iff (isElement : arena.kind frame = .element) :
    (arena.linkFrame frame document).HasMutualFrames ↔ ¬ arena.StrandsFrame frame document := by
  have content := @contentDocument_linkFrame arena frame document isElement
  have owner := @frameOwner_linkFrame arena frame document isDocument
  constructor
  · rintro linked ⟨_, other | ⟨other, ne, holds⟩ | ⟨other, ne, stands⟩⟩
    · exact other isElement
    · -- the document that the frame held before still names the frame
      have stale := (linked frame other).mpr
      rw [content, owner, if_pos rfl, if_neg ne] at stale
      exact ne (Option.some.inj (stale ((paired frame other).mp holds))).symm
    · have stale := (linked other document).mp
      rw [content, owner, if_pos rfl, if_neg ne] at stale
      exact ne (Option.some.inj (stale ((paired other document).mpr stands))).symm
  · intro fresh node inner
    -- another partner of either node would be stranded
    have holdsNoOther : ∀ other, arena.host.contentDocument frame = some other →
        other = document := by
      intro other holds
      by_contra ne
      exact fresh ⟨isDocument, .inr (.inl ⟨other, ne, holds⟩)⟩
    have standsInNoOther : ∀ other, arena.frameOwner document = some other → other = frame := by
      intro other stands
      by_contra ne
      exact fresh ⟨isDocument, .inr (.inr ⟨other, ne, stands⟩)⟩
    rw [content, owner]
    by_cases isFrame : node = frame <;> by_cases isInner : inner = document
    · simp [isFrame, isInner]
    · have notHeld : arena.frameOwner inner ≠ some frame :=
        fun stands => isInner (holdsNoOther inner ((paired frame inner).mpr stands))
      simp [isFrame, isInner, notHeld, Ne.symm isInner]
    · have notStanding : arena.host.contentDocument node ≠ some document :=
        fun holds => isFrame (standsInNoOther node ((paired node document).mp holds))
      simp [isFrame, isInner, notStanding, Ne.symm isFrame]
    · simpa [isFrame, isInner] using paired node inner

omit isDocument in
/-- An attachment, whether it succeeds or fails, keeps the links mutual if and only if it strands none. -/
theorem hasMutualFrames_attachFrame_iff (frame document : Handle) :
    (arena.attachFrame frame document).1.HasMutualFrames ↔ ¬ arena.StrandsFrame frame document := by
  rcases arena.attachFrame_cases frame document with
    ⟨noDocument, fails⟩ | ⟨isDocument, noElement, fails⟩ | ⟨isDocument, isElement, links⟩
  · rw [fails]
    exact iff_of_true paired fun strands => noDocument strands.1
  · rw [fails]
    refine iff_of_false (not_hasMutualFrames_setFrameOwner isDocument noElement) fun fresh => ?_
    exact fresh ⟨isDocument, .inl noElement⟩
  · rw [links]
    exact hasMutualFrames_linkFrame_iff paired isDocument isElement

end Attachment

end Arena

end ElementSearch
