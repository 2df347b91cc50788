import ElementSearch.Proofs.Arena.Walks
import ElementSearch.Proofs.Snapshot.Depth
import ElementSearch.Proofs.Snapshot.FrameLinks

/-!
# What a loaded page is like

The arena of a loaded page holds the page, the pages inside its frames, and nothing else. Each document has its root
element as the only child, and all of them are linked to the outermost one through frames that hold them and that they
name. A snapshot cannot be nested deeper than its text, which keeps every node closer to the outermost document than a
walk towards the root is long. So searches in such an arena need no proviso on its shape: `load_wellMade`.
-/

namespace ElementSearch

namespace Arena

/-- What holds of the arena of a page whose document is its first node. -/
structure IsWellMade (arena : Arena) : Prop where
  isDocument : arena.kind 0 = .document
  onlyChild : ∀ document, arena.kind document = .document →
    ∃ root, arena.children document = [root] ∧ arena.kind root = .element
  children_of_text : ∀ node, arena.kind node = .text → arena.children node = []
  reaches : ∀ node < arena.size, ∃ steps < maxAncestorSteps,
    arena.throughFrames.climb steps node = some 0
  onlyFrame : ∀ document, arena.kind document = .document → document ≠ 0 →
    ∃ frame, arena.kind frame = .element ∧ arena.frameOwner document = some frame ∧
      ∀ other, arena.host.contentDocument other = some document ↔ other = frame
  nodup_frameDocuments : (arena.host.frameDocuments 0).Nodup
  mem_frameDocuments_iff : ∀ node, node ∈ arena.host.frameDocuments 0 ↔
    arena.kind node = .document ∧ node ≠ 0
  walks : arena.HasWholeWalks

namespace HangsFrom

variable {arena : Arena} {outermost : Nat} (hanging : arena.HangsFrom outermost)
include hanging

/-- Every document but the outermost one stands in a frame that holds it. -/
theorem exists_frame {document : Handle} (isDocument : arena.kind document = .document)
    (ne : document ≠ outermost) :
    ∃ frame, arena.frameOwner document = some frame ∧
      arena.host.contentDocument frame = some document := by
  have lt := arena.lt_size_of_kind_eq isDocument nofun
  obtain ⟨_, _, hangs⟩ := hanging.hangs lt
  cases hangs with
  | outermost _ => exact absurd rfl ne
  | @framed _ frame _ known _ isFrame holds page =>
    refine ⟨frame, ?_, ?_⟩
    · rw [← page.outward, Arena.outward, if_pos isDocument]
    · rw [contentDocument_eq, isFrame]
      exact holds
  | element _ record => cases (kind_of_record? record).symm.trans isDocument
  | text _ record => cases (kind_of_record? record).symm.trans isDocument

/-- From the outermost document, frames lead to all other documents. -/
theorem mem_frameDocuments_iff {node : Handle} :
    node ∈ arena.host.frameDocuments outermost ↔ arena.kind node = .document ∧ node ≠ outermost := by
  have outside := (List.nodup_cons.mp hanging.nodup_documents).1
  rw [← hanging.mem_documents_iff, List.mem_cons]
  constructor
  · intro member
    refine ⟨.inr member, ?_⟩
    rintro rfl
    exact outside member
  · rintro ⟨same | member, ne⟩
    · exact absurd same ne
    · exact member

end HangsFrom

/-- An arena that hangs from its first node is well made if frames and documents name each other. -/
theorem HangsFrom.isWellMade {arena : Arena} (hanging : arena.HangsFrom 0)
    (paired : arena.HasMutualFrames) : arena.IsWellMade where
  isDocument := hanging.page.kind
  onlyChild document isDocument := by
    obtain ⟨owner, page⟩ := hanging.isPage isDocument
    exact ⟨document + 1, page.children, page.2⟩
  children_of_text := hanging.hasLeafTexts
  reaches _ lt := hanging.exists_climb_throughFrames lt
  onlyFrame document isDocument ne := by
    obtain ⟨frame, stands, holds⟩ := hanging.exists_frame isDocument ne
    refine ⟨frame, kind_of_contentDocument holds, stands, fun other => ?_⟩
    rw [paired, stands, Option.some.injEq]
    exact eq_comm
  nodup_frameDocuments := (List.nodup_cons.mp hanging.nodup_documents).2
  mem_frameDocuments_iff _ := hanging.mem_frameDocuments_iff
  walks := hanging.hasWholeWalks

end Arena

namespace Snapshot

open Arena

variable {text : String} {arena : Arena} {document : Handle}

/-- In the arena of a loaded page frames and documents name each other. -/
theorem hasMutualFrames_of_load (loaded : load text = .ok (arena, document)) :
    arena.HasMutualFrames := by
  obtain ⟨page, _, builds⟩ := of_load loaded
  have paired := hasMutualFrames_build page .empty fun _ _ => iff_of_false nofun nofun
  rwa [builds] at paired

/-- Loading a page gives it an arena of its own, which is well made, with the document as its first node. -/
theorem load_wellMade (loaded : load text = .ok (arena, document)) :
    document = 0 ∧ arena.IsWellMade := by
  obtain ⟨rfl, hanging⟩ := hangsFrom_of_load loaded
  exact ⟨rfl, hanging.isWellMade (hasMutualFrames_of_load loaded)⟩

section NestedPage

/-- A page with a text and a frame, around a page with a frame, around a page with a paragraph. -/
def nestedPageText : String :=
  "[null,[\"html\",\x7b\x7d,null,null,null,[\x7b\"text\":\"a\"\x7d,[\"iframe\",\x7b\x7d,null,null,null,[]," ++
    "[null,[\"iframe\",\x7b\x7d,null,null,null,[],[null,[\"p\"]]]]]]]]"

def nestedPage : Arena :=
  ((load nestedPageText).toOption.map Prod.fst).getD .empty

theorem load_nestedPage : load nestedPageText = .ok (nestedPage, 0) :=
  load_eq_ok (by decide +kernel)

/-- The innermost document of the nested page stands in the inner frame, which is the only element to hold it, and it
is found from the outermost one. The paragraph in it lies as deep as the frames are nested. -/
theorem load_wellMade_nestedPage :
    load nestedPageText = .ok (nestedPage, 0) ∧
      nestedPage.frameOwner 6 = some 5 ∧
      (∀ other, nestedPage.host.contentDocument other = some 6 ↔ other = 5) ∧
      6 ∈ nestedPage.host.frameDocuments 0 ∧ nestedPage.children 2 = [] ∧
      ∃ steps < maxAncestorSteps, nestedPage.throughFrames.climb steps 7 = some 0 := by
  obtain ⟨_, made⟩ := load_wellMade load_nestedPage
  -- one evaluation of the whole page for all that is read off it
  have shape : nestedPage.kind 6 = .document ∧ nestedPage.kind 2 = .text ∧ 7 < nestedPage.size ∧
      nestedPage.frameOwner 6 = some 5 := by decide +kernel
  obtain ⟨isDocument, isText, size, owner⟩ := shape
  obtain ⟨frame, _, stands, only⟩ := made.onlyFrame 6 isDocument (by decide)
  cases stands.symm.trans owner
  exact ⟨load_nestedPage, owner, only, (made.mem_frameDocuments_iff 6).mpr ⟨isDocument, by decide⟩,
    made.children_of_text 2 isText, made.reaches 7 size⟩

end NestedPage

end Snapshot

end ElementSearch
