import ElementSearch.Proofs.Search.Likeness

/-!
# Hosts that a search cannot tell apart

A search comes to know a host along links and by lookups, beginning where it starts. Two hosts may differ in nodes that
it never comes to: if they agree on some nodes, no link leads from these to another one, and lookups from them answer
alike, then searches that start in them return the same nodes in the same order (`Host.AgreesOn.locate`). The second
host may have more nodes than the first. Walks downwards are bounded by that number, so the first has to be a forest,
in which the bound cuts nothing off.
-/

namespace ElementSearch

variable {Node : Type}

/-- Whether two outlines agree on nodes from which no link leads to others. -/
structure Outline.AgreesOn (before after : Outline Node) (known : Node → Prop) : Prop where
  kind : ∀ {node}, known node → after.kind node = before.kind node
  parent : ∀ {node}, known node → after.parent node = before.parent node
  children : ∀ {node}, known node → after.children node = before.children node
  tagName : ∀ {node}, known node → after.tagName node = before.tagName node
  attributeValue : ∀ {node}, known node → ∀ name,
    after.attributeValue node name = before.attributeValue node name
  known_parent : ∀ {node up}, known node → before.parent node = some up → known up
  known_child : ∀ {node child}, known node → child ∈ before.children node → known child

namespace Outline.AgreesOn

variable {before after : Outline Node} {known : Node → Prop} (agrees : before.AgreesOn after known)
  {node : Node}
include agrees

/-- Hosts that agree on the known nodes share the links among them. -/
theorem sharesLinks : before.SharesLinksOn after known where
  kind := agrees.kind
  parent := agrees.parent
  children := agrees.children
  known_parent := agrees.known_parent
  known_child := agrees.known_child

/-- More nodes elsewhere do not make a walk downwards longer. -/
theorem descendants (forest : before.IsForest) (size_le : before.size ≤ after.size)
    (isKnown : known node) : after.descendants node = before.descendants node := by
  rw [Outline.descendants, agrees.sharesLinks.descendantsWithin after.size isKnown,
    forest.descendantsWithin_eq_descendants size_le]

/-- The lookup by tag below a known node finds the same elements in a forest as in a larger one.
-/
theorem descendantsWithTag (forest : before.IsForest) (size_le : before.size ≤ after.size)
    (isKnown : known node) (tag : String) :
    after.descendantsWithTag node tag = before.descendantsWithTag node tag := by
  rw [Outline.descendantsWithTag, Outline.descendantsWithTag,
    agrees.descendants forest size_le isKnown]
  refine List.filter_congr fun below member => ?_
  rw [agrees.tagName (agrees.sharesLinks.known_of_mem_descendantsWithin isKnown member)]

end Outline.AgreesOn

/-- Whether two hosts agree on nodes from which neither links nor lookups lead to others. -/
structure Host.AgreesOn [DecidableEq Node] (before after : Host Node) (known : Node → Prop) : Prop
    extends before.toOutline.AgreesOn after.toOutline known where
  property : ∀ {node}, known node → ∀ name, after.property node name = before.property node name
  style : ∀ {node}, known node → after.style node = before.style node
  boundingRect : ∀ {node}, known node → after.boundingRect node = before.boundingRect node
  clientSize : ∀ {node}, known node → after.clientSize node = before.clientSize node
  elementById : ∀ {document}, known document → ∀ id,
    after.elementById document id = before.elementById document id
  elementsByTagName : ∀ {scope}, known scope → ∀ tag,
    after.elementsByTagName scope tag = before.elementsByTagName scope tag
  elementsByClassName : ∀ {scope}, known scope → ∀ name,
    after.elementsByClassName scope name = before.elementsByClassName scope name
  selectByClass : ∀ {document}, known document → ∀ name,
    after.selectByClass document name = before.selectByClass document name
  known_hit : ∀ {predicate : Predicate} {start hits}, known start →
    predicate.hits? before start = some hits → ∀ hit ∈ hits, known hit

namespace Host.AgreesOn

variable [DecidableEq Node] {before after : Host Node} {known : Node → Prop}
  (agrees : before.AgreesOn after known) {node : Node}
include agrees

/-- Hosts that agree on the known nodes share what is seen of them. -/
theorem sharesLooks : before.SharesLooksOn after known where
  toSharesLinksOn := agrees.sharesLinks
  style := agrees.style
  boundingRect := agrees.boundingRect
  clientSize := agrees.clientSize

section Predicates

variable {predicate : Predicate}

/-- A known node passes a predicate on both hosts or on neither. -/
theorem passes (isKnown : known node) :
    predicate.passes after node = predicate.passes before node := by
  simp only [Predicate.passes, Predicate.elementPasses, Predicate.classesOf, Predicate.hasSource,
    Predicate.sourceOf, agrees.sharesLinks.isElement isKnown, agrees.property isKnown,
    agrees.tagName isKnown, agrees.attributeValue isKnown]

/-- The class index proposes the same nodes on both hosts. -/
theorem classHits? (isKnown : known node) :
    predicate.classHits? after node = predicate.classHits? before node := by
  have selected : ((before.documentOf node).bind fun document =>
        after.selectByClass document predicate.value) =
      (before.documentOf node).bind fun document =>
        before.selectByClass document predicate.value :=
    Option.bind_congr fun document found =>
      agrees.selectByClass (agrees.sharesLinks.known_of_documentOf isKnown found) predicate.value
  rw [Predicate.classHits?, Predicate.classHits?, agrees.elementsByClassName isKnown,
    agrees.sharesLinks.documentOf isKnown, selected]

/-- The indexes propose the same nodes on both hosts. -/
theorem hits? (isKnown : known node) :
    predicate.hits? after node = predicate.hits? before node := by
  have byId : ((before.documentOf node).map fun document =>
        (after.elementById document predicate.value).toList) =
      (before.documentOf node).map fun document =>
        (before.elementById document predicate.value).toList :=
    Option.map_congr fun document found => by
      rw [agrees.elementById (agrees.sharesLinks.known_of_documentOf isKnown found)]
  unfold Predicate.hits?
  rw [agrees.sharesLinks.documentOf isKnown, agrees.classHits? isKnown,
    agrees.elementsByTagName isKnown, byId]

end Predicates

/-- A rule is answered in the same way by both hosts. -/
theorem answersAlike (rule : Rule) : rule.AnswersAlike before after known rule :=
  List.forall₂_same.mpr fun _ _ =>
    { kind := rfl
      scope := rfl
      value := fun _ => rfl
      passes := agrees.passes
      hits? := agrees.hits?
      known_hit := agrees.known_hit }

/-- Searches start from the same nodes. -/
theorem roots (rule : Rule) (isKnown : known node) :
    rule.roots after node = rule.roots before node :=
  (agrees.answersAlike rule).roots agrees.sharesLooks isKnown

/-- Searches find the same nodes in the same order. -/
theorem locate (forest : before.IsForest) (size_le : before.size ≤ after.size) (rule : Rule)
    (traversal : Traversal) (isKnown : known node) :
    rule.locate after traversal node = rule.locate before traversal node := by
  refine (agrees.answersAlike rule).locate agrees.sharesLooks (fun root => ?_) isKnown
  -- the walk in the second host is bounded by its own size, which is more than the first host needs
  exact Rule.collectWithin_eq_collect forest (Nat.succ_le_succ size_le) root

end Host.AgreesOn

end ElementSearch
