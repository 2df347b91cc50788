import ElementSearch.Proofs.Arena.FrameLinks
import ElementSearch.Proofs.Snapshot.Layout

/-!
# Frames and documents of a build

A build embeds a page in an element that it has just made, right after it has built the page. Neither of the two has
another partner then. So a build, finished or not, keeps the links between frames and documents mutual:
`hasMutualFrames_buildInto`.
-/

namespace ElementSearch.Snapshot

open Arena

/-- A page that was built behind a new element can be embedded in it: neither has another partner. -/
theorem IsFilled.hasMutualFrames_attachFrame {before filled built : Arena} {parent : Nat}
    {fields : ElementFields} {children : List ChildSnapshot} {page : Snapshot}
    (isFilled : IsFilled before filled parent fields children)
    (extended : filled.ExtendedBy (count page) (fun _ => []) built)
    (inside : LiesAt built none filled.size page) (paired : built.HasMutualFrames) :
    (built.attachFrame before.size filled.size).1.HasMutualFrames := by
  have isFrame := isFilled.record?_of_extendedBy extended
  obtain ⟨baseUrl, root⟩ := page
  obtain ⟨isDocument, _⟩ := inside
  refine (hasMutualFrames_attachFrame_iff paired _ _).mpr ?_
  rintro ⟨_, noElement | ⟨other, _, holds⟩ | ⟨other, _, stands⟩⟩
  · exact noElement (kind_of_record? isFrame)
  · rw [contentDocument_eq, element?_of_record? isFrame] at holds
    cases holds
  · rw [frameOwner_of_record? isDocument] at stands
    cases stands

mutual

/-- A build keeps links mutual, whether it is finished or not. -/
theorem hasMutualFrames_build : (snapshot : Snapshot) → {arena : Arena} → arena.HasLinks →
    arena.HasMutualFrames → ((build snapshot).on arena).2.HasMutualFrames
  | .mk baseUrl root, arena, links, paired => by
    unfold build
    refine holds_bind arena (by rwa [on_readBaseUrl]) fun url read reads _ => ?_
    obtain ⟨rfl, _⟩ := of_on_readBaseUrl reads
    have createdFrames : read.SameFrames (read.createDocument url).1 := read.sameFrames_push rfl
    have createdPaired := createdFrames.hasMutualFrames paired
    refine holds_bind read createdPaired fun document created makes createdPaired => ?_
    cases makes
    have isNew : read.size < (read.createDocument url).1.size :=
      (read.hasNew_push (.document url none)).size ▸ Nat.lt_succ_self read.size
    have newLinks : (read.createDocument url).1.HasLinks := links.push rfl
    have built := hasMutualFrames_buildElement root newLinks isNew createdPaired
    exact holds_bind _ built fun _ _ _ kept => kept

/-- Building an element keeps all frames mutual, those inside of it included. -/
theorem hasMutualFrames_buildElement : (snapshot : ElementSnapshot) → {arena : Arena} →
    {parent : Nat} → arena.HasLinks → parent < arena.size → arena.HasMutualFrames →
    ((buildElement parent snapshot).on arena).2.HasMutualFrames
  | .mk fields children frame, arena, parent, links, lt, paired => by
    obtain ⟨described, describes, grown⟩ := on_buildFields fields arena
    have new := grown.hasNew
    have newLinks := grown.grows.preserves HasLinks.grow links
    have describedPaired := (grown.adds 0 (Nat.zero_le _)).sameFrames.hasMutualFrames paired
    rw [buildElement_eq, on_bind_of_ok arena describes]
    have appended := described.adds_appendChild new.parent_size new.children_size (Nat.zero_le parent)
      (Nat.zero_le arena.size)
    refine holds_bind described (holds_performing described
      (appended.sameFrames.hasMutualFrames describedPaired)) fun _ adopted adopts adoptedPaired => ?_
    rw [on_performing, new.appendChild_eq lt newLinks nofun] at adopts
    cases adopts
    have newChild := new.hasNewChild lt newLinks nofun
    have filledPaired := hasMutualFrames_buildChildren children newChild.links newChild.lt_size
      adoptedPaired
    refine holds_bind _ filledPaired fun _ filled fills filledPaired => ?_
    obtain ⟨extended, below⟩ := childrenLieAt_of_build children newChild.links newChild.lt_size fills
    have isFilled := isFilled_of_build newChild fills extended below
    refine holds_bind filled ?_ fun _ _ _ kept => kept
    match frame with
    | none => exact filledPaired
    | some page =>
      have builtPaired := hasMutualFrames_build page isFilled.links filledPaired
      refine holds_bind filled builtPaired fun document built builds builtPaired => ?_
      obtain ⟨rfl, further, inside⟩ := liesAt_of_build page isFilled.links builds
      exact holds_performing built
        (isFilled.hasMutualFrames_attachFrame further inside builtPaired)

/-- Building a list of children keeps all frames mutual. -/
theorem hasMutualFrames_buildChildren : (children : List ChildSnapshot) → {arena : Arena} →
    {parent : Nat} → arena.HasLinks → parent < arena.size → arena.HasMutualFrames →
    ((buildChildren parent children).on arena).2.HasMutualFrames
  | [], _, _, _, _, paired => paired
  | .text text :: rest, arena, parent, links, lt, paired => by
    have new := links.hasNewChild_addText lt text
    have adds := arena.adds_addText (Nat.zero_le _) (Nat.zero_le parent) text
    have addedPaired := adds.sameFrames.hasMutualFrames paired
    have behind := hasMutualFrames_buildChildren rest new.links (Nat.lt_trans lt new.lt_size)
      addedPaired
    unfold buildChildren
    exact behind
  | .element child :: rest, arena, parent, links, lt, paired => by
    unfold buildChildren
    refine holds_bind arena (hasMutualFrames_buildElement child links lt paired)
      fun _ added adds addedPaired => ?_
    have beside := growsBeside_buildElement child parent arena (Nat.zero_le _) (Nat.zero_le _)
    have addedLinks := hasLinks_of_on links beside adds
    rw [adds] at beside
    exact hasMutualFrames_buildChildren rest addedLinks (beside.grows.kind_eq lt).1 addedPaired

end

/-- A snapshot built into an arena with mutual frames leaves them mutual, whether the build fails
or not. -/
theorem hasMutualFrames_buildInto {arena : Arena} (links : arena.HasLinks)
    (paired : arena.HasMutualFrames) (snapshot : Snapshot) :
    (snapshot.buildInto arena).1.HasMutualFrames :=
  hasMutualFrames_build snapshot links paired

end ElementSearch.Snapshot
