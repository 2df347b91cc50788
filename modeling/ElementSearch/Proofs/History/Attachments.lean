import ElementSearch.Arena.Label
import ElementSearch.Proofs.Arena.Hanging
import ElementSearch.Proofs.History.Failures
import ElementSearch.Proofs.Snapshot.FrameLinks

/-!
# Which histories keep frames and documents paired

Along a history the two ends of the links between frames and documents agree if and only if no attachment of the
history strands one: `after_hasMutualFrames_iff`. Where they agree, the frame through which an embedded document is
found is the one that the path of the document leads through: `HasMutualFrames.exists_frame`. An attachment that
succeeds may still strand a link: it does not look for former partners.
-/

namespace ElementSearch

namespace Operation

open Arena

/-- Whether an operation is an attachment that leaves a link with one end only. -/
def StrandsFrame (operation : Operation) (arena : Arena) : Prop :=
  ∃ frame document, operation = .attachFrame frame document ∧ arena.StrandsFrame frame document

variable {arena : Arena}

/-- An attachment strands a frame exactly when its two nodes do so in the arena. -/
theorem strandsFrame_attachFrame_iff {frame document : Handle} :
    Operation.StrandsFrame (.attachFrame frame document) arena ↔
      arena.StrandsFrame frame document := by
  constructor
  · rintro ⟨_, _, same, strands⟩
    cases same
    exact strands
  · exact fun strands => ⟨frame, document, rfl, strands⟩

/-- Only attachments and builds change links between frames and documents. -/
theorem sameFrames_apply {operation : Operation} (single : ¬ operation.IsBuild)
    (other : ¬ operation.IsAttachment) : arena.SameFrames (operation.apply arena).1 := by
  rcases operation.adds_or_differs arena with adds | ⟨parent, child, _, _, moved⟩ | attaches | builds
  · exact adds.sameFrames
  · rw [moved]
    exact arena.sameFrames_attach parent child
  · exact absurd attaches other
  · exact absurd builds single

/-- An operation keeps the links mutual if and only if it strands none. -/
theorem hasMutualFrames_apply_iff (links : arena.HasLinks) (paired : arena.HasMutualFrames)
    (operation : Operation) :
    (operation.apply arena).1.HasMutualFrames ↔ ¬ operation.StrandsFrame arena := by
  by_cases attaches : operation.IsAttachment
  · obtain ⟨frame, document, rfl⟩ := attaches
    rw [strandsFrame_attachFrame_iff]
    exact hasMutualFrames_attachFrame_iff paired frame document
  · refine iff_of_true ?_ ?_
    · by_cases builds : operation.IsBuild
      · obtain ⟨snapshot, rfl⟩ := builds
        exact Snapshot.hasMutualFrames_buildInto links paired snapshot
      · exact (sameFrames_apply builds attaches).hasMutualFrames paired
    · rintro ⟨frame, document, same, _⟩
      exact attaches ⟨frame, document, same⟩

end Operation

namespace Arena

variable {arena : Arena}

/-- An arena without nodes has no frame that could be one-sided. -/
theorem hasMutualFrames_empty : empty.HasMutualFrames := by
  intro frame document
  exact iff_of_false nofun nofun

/-- The links are mutual all along a history if and only if no operation of it strands one. -/
theorem after_hasMutualFrames_iff (links : arena.HasLinks) (paired : arena.HasMutualFrames)
    (history : List Operation) :
    (∀ passed, passed <+: history → (arena.after passed).HasMutualFrames) ↔
      ∀ passed operation, passed ++ [operation] <+: history →
        ¬ operation.StrandsFrame (arena.after passed) :=
  after_prefixes_iff paired (fun passed operation soFar =>
    Operation.hasMutualFrames_apply_iff (links.after passed) soFar operation) history

/-- A path that comes to a document in a frame goes on at the frame. -/
theorem pathSegments_of_frameOwner {frame document : Handle}
    (isDocument : arena.kind document = .document) (stands : arena.frameOwner document = some frame)
    (steps : Nat) :
    arena.pathSegments (steps + 1) document = "|" :: arena.pathSegments steps frame := by
  rw [pathSegments, if_pos isDocument, stands]

/-- Whether one frame of a document holds another one, no other element does, and the path of the inner document
leads through that frame. -/
structure IsOnlyWay (arena : Arena) (outer frame inner : Handle) : Prop where
  isFrame : frame ∈ arena.outline.descendants outer
  only : ∀ other, arena.host.contentDocument other = some inner ↔ other = frame
  frameOwner : arena.frameOwner inner = some frame
  path : ∀ steps,
    arena.pathSegments (steps + 1) inner = "|" :: arena.pathSegments steps frame

/-- Each document that is found through frames is found through the frame that its path leads through. -/
theorem HasMutualFrames.exists_frame (paired : arena.HasMutualFrames) (links : arena.HasLinks)
    {document inner : Handle} (found : inner ∈ arena.host.frameDocuments document) :
    ∃ outer frame, (outer = document ∨ outer ∈ arena.host.frameDocuments document) ∧
      arena.IsOnlyWay outer frame inner := by
  obtain ⟨ne, reached⟩ := (Host.mem_frameDocuments_iff links.embedsWithin).mp found
  rcases reached.cases_tail with same | ⟨outer, above, embeds⟩
  · exact absurd same ne
  · obtain ⟨frame, isFrame, holds⟩ := List.mem_filterMap.mp embeds
    have stands := (paired frame inner).mp holds
    refine ⟨outer, frame, ?_, isFrame, fun other => ?_, stands, ?_⟩
    · rw [Host.mem_frameDocuments_iff links.embedsWithin]
      exact or_iff_not_imp_left.mpr fun differs => ⟨differs, above⟩
    · rw [paired other inner, stands, Option.some.injEq]
      exact eq_comm
    · exact pathSegments_of_frameOwner (links.kind_of_embeds embeds) stands

/-- How far frames and documents name each other, for whatever a history leads to. They do so all along the history if
and only if no attachment of it puts a document into a node that is no element or into a frame that holds another
document, or takes a document that stands in another frame. Where they do, each document that is found through frames is
found through the frame that its path leads through, and through no other. -/
theorem frame_links_exact (history : List Operation) :
    ((∀ passed, passed <+: history → (empty.after passed).HasMutualFrames) ↔
      ∀ passed operation, passed ++ [operation] <+: history →
        ¬ operation.StrandsFrame (empty.after passed)) ∧
      ((empty.after history).HasMutualFrames → ∀ document inner,
        inner ∈ (empty.after history).host.frameDocuments document →
          ∃ outer frame,
            (outer = document ∨ outer ∈ (empty.after history).host.frameDocuments document) ∧
              (empty.after history).IsOnlyWay outer frame inner) := by
  refine ⟨after_hasMutualFrames_iff .empty hasMutualFrames_empty history, ?_⟩
  intro paired document inner found
  exact paired.exists_frame (HasLinks.empty.after history) found

section Reattachment

/-- A history that gives a frame one document after the other. -/
def reattaching : List Operation :=
  [.createDocument none, .addElement 0 "iframe" [], .createDocument none, .createDocument none,
    .attachFrame 1 2, .attachFrame 1 3]

/-- Two attachments that succeed leave the first document with a frame that holds the second one. -/
theorem reattachment_strands_former_document :
    empty.succeeding reattaching = reattaching ∧
      (empty.after reattaching).host.contentDocument 1 = some 3 ∧
      (empty.after reattaching).frameOwner 2 = some 1 ∧
      ¬ (empty.after reattaching).HasMutualFrames := by
  have holds : (empty.after reattaching).host.contentDocument 1 = some 3 := by decide
  have stale : (empty.after reattaching).frameOwner 2 = some 1 := by decide
  refine ⟨rfl, holds, stale, fun paired => ?_⟩
  have back := (paired 1 2).mpr stale
  rw [holds] at back
  cases back

end Reattachment

end Arena

end ElementSearch
