import ElementSearch.Proofs.Arena.Lookup
import ElementSearch.Proofs.Search.Layers
import ElementSearch.Proofs.Search.Narrowing

/-!
# Hidden regions

An element is hidden by its own style or by that of an element above it, so whatever lies below a hidden element is
hidden too. A search for the outermost hidden elements may therefore stop at each of them: the subtrees of its results
hold exactly the hidden elements, each of which lies in one of them only (`Reachable.reportsHidden`). An element above
the one where the search starts may hide all of it, and then the start is the only result.
-/

namespace ElementSearch

open Text

/-- Whether a style hides its element. -/
def Style.Hides (style : Style) : Prop :=
  asciiLowercase style.display = "none" ∨ asciiLowercase style.visibility = "hidden"

/-- A style is invisible exactly when one of its parts hides. -/
theorem Style.isVisible_eq_false_iff {style : Style} : style.isVisible = false ↔ style.Hides := by
  have none : asciiLowercase "none" = "none" := by decide
  have hidden : asciiLowercase "hidden" = "hidden" := by decide
  simp only [isVisible, Hides, sameIgnoringAsciiCase, none, hidden, Bool.and_eq_false_iff,
    Bool.not_eq_false', beq_iff_eq]

section Host

variable {Node : Type} [DecidableEq Node] {host : Host Node} {node : Node}

/-- In a forest an element is visible if no element above it, itself included, is not shown. -/
theorem Host.isVisible_eq_false_iff (linked : host.IsLinked) (leaves : host.HasLeafTexts)
    (shallow : host.IsShallow) (element : host.isElement node) :
    host.isVisible node = false ↔
      ∃ above, host.isElement above ∧ host.Encloses above node ∧ host.isShown above = false := by
  simp only [isVisible, Bool.and_eq_false_iff, List.all_eq_false, Bool.not_eq_true,
    linked.mem_ancestors_iff leaves shallow]
  constructor
  · rintro (own | ⟨above, ⟨isElement, ancestor⟩, hides⟩)
    · exact ⟨node, element, .refl node, own⟩
    · exact ⟨above, isElement, ancestor.encloses, hides⟩
  · rintro ⟨above, isElement, encloses, hides⟩
    rcases Outline.encloses_iff_eq_or_isAncestor.mp encloses with rfl | ancestor
    · exact .inl hides
    · exact .inr ⟨above, ⟨isElement, ancestor⟩, hides⟩

/-- A visibility predicate compares its wanted value with what the host sees. -/
theorem Predicate.holds_visibility_eq (shown : Bool) :
    (Predicate.visibility shown).holds host node = (host.isVisible node == shown) := by
  cases shown with
  | true => exact (beq_true _).symm
  | false => exact (beq_false _).symm

end Host

namespace Arena

variable {arena : Arena}

/-- Whether a node is an element whose style hides it, or lies below one. -/
def IsHidden (arena : Arena) (node : Handle) : Prop :=
  ∃ above element, arena.element? above = some element ∧ element.style.Hides ∧
    arena.outline.Encloses above node

/-- The rule that asks for hidden elements. -/
def hiddenElements : Rule :=
  ⟨[.visibility false]⟩

/-- What the search for the outermost hidden elements returns. -/
def hiddenRegions (arena : Arena) (start : Handle) : List Handle :=
  hiddenElements.locateOutermost arena.host start

/-- What the two predicates on visibility and the search for hidden elements say of a node in a subtree. -/
structure ReportsHidden (arena : Arena) (start node : Handle) : Prop where
  holds_one : Xor ((Predicate.visibility true).holds arena.host node)
    ((Predicate.visibility false).holds arena.host node)
  holds_hidden_iff : (Predicate.visibility false).holds arena.host node ↔ arena.IsHidden node
  isHidden_iff : arena.IsHidden node ↔
    ∃! region, region ∈ arena.hiddenRegions start ∧ arena.outline.Encloses region node
  never_nests : ∀ first ∈ arena.hiddenRegions start, ∀ second ∈ arena.hiddenRegions start,
    ¬ arena.outline.IsAncestor first second

/-- What lies below a hidden element is hidden. -/
theorem IsHidden.of_encloses {above node : Handle} (hidden : arena.IsHidden above)
    (encloses : arena.outline.Encloses above node) : arena.IsHidden node := by
  obtain ⟨source, element, isElement, hides, around⟩ := hidden
  exact ⟨source, element, isElement, hides, around.trans encloses⟩

/-- An element that is not shown is one whose style hides it. -/
theorem isShown_eq_false_iff {node : Handle} :
    arena.host.isShown node = false ↔
      ∃ element, arena.element? node = some element ∧ element.style.Hides := by
  change ((arena.element? node).map (·.style)).all Style.isVisible = false ↔ _
  cases arena.element? node with
  | none => simp
  | some element => simp [Style.isVisible_eq_false_iff]

section Forest

variable (links : arena.HasLinks) (shallow : arena.outline.IsShallow)
  (leaves : arena.outline.HasLeafTexts)
include links shallow leaves

/-- An element is found hidden exactly when it or an element above it is hidden by its own style.
-/
theorem holds_hidden_iff {node : Handle} (element : arena.outline.isElement node) :
    (Predicate.visibility false).holds arena.host node ↔ arena.IsHidden node := by
  have linked : arena.host.IsLinked := links.isLinked
  rw [Predicate.holds_visibility_eq, beq_iff_eq,
    Host.isVisible_eq_false_iff linked leaves shallow element]
  constructor
  · rintro ⟨above, _, encloses, hides⟩
    obtain ⟨known, isKnown, hides⟩ := isShown_eq_false_iff.mp hides
    exact ⟨above, known, isKnown, hides, encloses⟩
  · rintro ⟨above, known, isKnown, hides, encloses⟩
    have isElement : arena.kind above = .element := by
      rw [← element?_isSome_iff, isKnown]
      rfl
    exact ⟨above, decide_eq_true isElement, encloses,
      isShown_eq_false_iff.mpr ⟨known, isKnown, hides⟩⟩

/-- All elements of a subtree are searched for hidden ones. -/
theorem mem_locateEvery_hidden_iff {start node : Handle} (element : arena.kind start = .element)
    (filed : arena.IsFiled) :
    node ∈ hiddenElements.locateEvery arena.host start ↔
      node ∈ arena.outline.subtree start ∧ (Predicate.visibility false).holds arena.host node := by
  have forest : arena.host.IsShallowForest := links.isShallowForest shallow
  have starts : Rule.start? arena.host start = some start := by
    have isElement : arena.host.kind start = .element := element
    simp [Rule.start?, isElement]
  have covers : (Predicate.visibility false).Covers arena.host start :=
    Predicate.covers_of_looksUpAll forest leaves nofun
  refine (Rule.mem_locate_every_iff forest leaves starts
    (fun other _ => looksUpElements filed links.isLinked other start)
    (List.mem_singleton_self _) covers).trans (and_congr_right fun _ => ?_)
  simp [Rule.holds]

end Forest

/-- Visibility is inherited, and the search for hidden elements reports the regions that are hidden. -/
theorem Reachable.reportsHidden (reachable : arena.Reachable) (shallow : arena.outline.IsShallow)
    (leaves : arena.outline.HasLeafTexts) {start : Handle} (element : arena.kind start = .element)
    {node : Handle} (member : node ∈ arena.outline.subtree start) :
    arena.ReportsHidden start node := by
  have links := reachable.hasLinks
  have forest : arena.host.IsShallowForest := links.isShallowForest shallow
  have inSubtree : ∀ {other}, other ∈ arena.outline.subtree start →
      ((Predicate.visibility false).holds arena.host other ↔ arena.IsHidden other) := by
    intro other inside
    refine holds_hidden_iff links shallow leaves ?_
    rcases (forest.mem_subtree_iff leaves).mp inside with rfl | ⟨isElement, _⟩
    · exact decide_eq_true element
    · exact isElement
  have found : ∀ {other}, other ∈ hiddenElements.locateEvery arena.host start ↔
      other ∈ arena.outline.subtree start ∧ (Predicate.visibility false).holds arena.host other :=
    mem_locateEvery_hidden_iff links shallow leaves element reachable.isFiled
  have layer : arena.host.IsOuterLayer (hiddenElements.locateEvery arena.host start)
      (hiddenElements.locate arena.host .outermost start) := Rule.isOuterLayer_locate forest start
  refine ⟨?_, inSubtree member, ⟨fun hidden => ?_, ?_⟩, layer.never_nests⟩
  · rw [Predicate.holds_visibility_eq, Predicate.holds_visibility_eq]
    cases arena.host.isVisible node <;> simp [Xor]
  · exact layer.existsUnique_encloses node (found.mpr ⟨member, (inSubtree member).mpr hidden⟩)
  · rintro ⟨region, ⟨isRegion, encloses⟩, _⟩
    obtain ⟨inside, hidden⟩ := found.mp (layer.subset isRegion)
    exact ((inSubtree inside).mp hidden).of_encloses encloses

section Veiled

/-- A list with a hidden item, an element that is hidden as well inside it, and another one inside that whose own style
shows it. -/
def veiled : Arena :=
  empty.after
    [.createDocument none, .addElement 0 "ul" [], .addElement 1 "li" [], .addElement 2 "b" [],
      .addElement 3 "i" [], .addElement 1 "li" [], .setStyle 2 ⟨"NONE", ""⟩,
      .setStyle 3 ⟨"block", "hidden"⟩, .setStyle 4 ⟨"block", "visible"⟩]

theorem reachable_veiled : veiled.Reachable := ⟨_, rfl⟩

theorem isShallow_veiled : veiled.outline.IsShallow :=
  reachable_veiled.hasLinks.isShallow_of_older (by decide) (by decide)

theorem hasLeafTexts_veiled : veiled.outline.HasLeafTexts := by
  refine hasLeafTexts_of_all ?_
  rw [show veiled.size = 6 by decide]
  decide

/-- The innermost element is hidden. From the list it lies in one region, and from the element itself as well, although
nothing at or below it hides it. -/
theorem reportsHidden_veiled :
    veiled.IsHidden 4 ∧ ¬ veiled.IsHidden 5 ∧
      (∃! region, region ∈ veiled.hiddenRegions 1 ∧ veiled.outline.Encloses region 4) ∧
      ∃! region, region ∈ veiled.hiddenRegions 4 ∧ veiled.outline.Encloses region 4 := by
  have reports : ∀ start node, veiled.kind start = .element → node ∈ veiled.outline.subtree start →
      veiled.ReportsHidden start node := fun _ _ element =>
    reachable_veiled.reportsHidden isShallow_veiled hasLeafTexts_veiled element
  have fromList := reports 1 4 (by decide) (by decide)
  have fromItself := reports 4 4 (by decide) (by decide)
  have item := reports 1 5 (by decide) (by decide)
  have isHidden := fromList.holds_hidden_iff.mp (by decide +kernel)
  refine ⟨isHidden, fun other => ?_, fromList.isHidden_iff.mp isHidden,
    fromItself.isHidden_iff.mp isHidden⟩
  exact absurd (item.holds_hidden_iff.mpr other) (by decide +kernel)

end Veiled

end Arena

end ElementSearch
