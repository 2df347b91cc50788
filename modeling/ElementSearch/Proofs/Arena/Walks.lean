import ElementSearch.Arena.Label
import ElementSearch.Proofs.Arena.Hanging
import ElementSearch.Proofs.Arena.Preorder

/-!
# Walks that are not cut off

Every walk towards the root gives up after a number of steps. Where the links end before that, more steps change
nothing: this is shown for each of the four walks along its own recursion. The walk of a path goes on from a document
at the frame around it, so it follows the links of `outward`; the others follow parents. In an arena that hangs from
one document all links end in time, so every walk is exact: `HangsFrom.hasWholeWalks`.
-/

namespace ElementSearch

namespace Outline

variable {Node : Type} {outline : Outline Node}

/-- Where the parents of a node end, a walk with more steps comes to the same, if each of its steps does so once the walk
from the parent does. -/
theorem walk_eq_of_ended {α : Type} {walk : Nat → Node → α}
    (step : ∀ {steps more node}, (∀ {up}, outline.parent node = some up → walk more up = walk steps up) →
      walk (more + 1) node = walk (steps + 1) node)
    {steps more : Nat} {node : Node} (ended : outline.climb steps node = none) (le : steps ≤ more) :
    walk more node = walk steps node := by
  induction steps generalizing node more with
  | zero => cases ended
  | succ steps ih =>
    cases more with
    | zero => cases le
    | succ more =>
      refine step fun linked => ?_
      rw [climb_succ_of_parent linked] at ended
      exact ih ended (Nat.le_of_succ_le_succ le)

/-- Where the parents of a node end, a lineage with more steps is the same. -/
theorem lineageWithin_eq_of_ended {steps more : Nat} {node : Node}
    (ended : outline.climb steps node = none) (le : steps ≤ more) :
    outline.lineageWithin more node = outline.lineageWithin steps node := by
  refine walk_eq_of_ended (fun {steps more node} further => ?_) ended le
  unfold lineageWithin
  cases linked : outline.parent node with
  | none => rfl
  | some parent => simp only [further linked]

/-- Where the parents of a node end, a walk through the elements above it with more steps finds the same. -/
theorem ancestorsWithin_eq_of_ended [DecidableEq Node] {origin : Node} {steps more : Nat}
    {node : Node} (ended : outline.climb steps node = none) (le : steps ≤ more) :
    outline.ancestorsWithin origin more node = outline.ancestorsWithin origin steps node := by
  refine walk_eq_of_ended (fun {steps more node} further => ?_) ended le
  unfold ancestorsWithin
  cases isParent : outline.parentElement node with
  | none => rfl
  | some parent => simp only [further (Option.filter_eq_some_iff.mp isParent).1]

end Outline

namespace Arena

/-- The next node on the way out of all frames: the parent of a node or, for a document, the frame around it. -/
def outward (arena : Arena) (node : Handle) : Option Handle :=
  if arena.kind node = .document then arena.frameOwner node else arena.parent node

/-- The outline in which a document in a frame lies below that frame. -/
def throughFrames (arena : Arena) : Outline Handle :=
  { arena.outline with parent := arena.outward }

variable {arena : Arena}

/-- A node that is no document leads outward to its parent. -/
theorem outward_of_record? {node : Handle} {record : Record}
    (present : arena.record? node = some record) (other : record.content.kind ≠ .document) :
    arena.outward node = record.parent := by
  rw [outward, if_neg (kind_of_record? present ▸ other), parent_of_record? present]

/-- The document of a page leads outward to the frame that embeds the page. -/
theorem IsPage.outward {document : Nat} {owner : Option Handle}
    (page : arena.IsPage document owner) : arena.outward document = owner := by
  rw [Arena.outward, if_pos page.kind]
  obtain ⟨⟨url, record⟩, _⟩ := page
  exact frameOwner_of_record? record

/-- A node lies as many links below the outermost document as it takes to get there. -/
theorem HangsAt.climb_throughFrames {outermost level node : Nat}
    (hangs : arena.HangsAt outermost level node) :
    arena.throughFrames.climb level node = some outermost := by
  have goesOn : ∀ {up node : Nat} {links : Nat}, arena.outward node = some up →
      arena.throughFrames.climb links up = some outermost →
      arena.throughFrames.climb (links + 1) node = some outermost :=
    fun linked reaches => Outline.climb_succ_eq_some_iff.mpr ⟨_, linked, reaches⟩
  induction hangs with
  | outermost page => rfl
  | framed _ _ _ page ih => exact goesOn page.outward ih
  | element _ record ih => exact goesOn (outward_of_record? record nofun) ih
  | text _ record ih => exact goesOn (outward_of_record? record nofun) ih

/-- Where the way out of a node ends, a path with more steps has the same segments. -/
theorem pathSegments_eq_of_ended {steps more : Nat} {node : Handle}
    (ended : arena.throughFrames.climb steps node = none) (le : steps ≤ more) :
    arena.pathSegments more node = arena.pathSegments steps node := by
  refine Outline.walk_eq_of_ended (fun {steps more node} further => ?_) ended le
  change ∀ {up}, arena.outward node = some up → _ at further
  unfold outward at further
  unfold pathSegments
  split
  · next isDocument =>
    rw [if_pos isDocument] at further
    cases stands : arena.frameOwner node with
    | none => rfl
    | some owner => simp only [further stands]
  · next other =>
    rw [if_neg other] at further
    cases linked : arena.parent node with
    | none => rfl
    | some up => simp only [further linked]

/-- Where the parents of a node end, a key with more steps is the same. -/
theorem extendOrderKey_eq_of_ended {steps more : Nat} {node : Handle}
    (ended : arena.outline.climb steps node = none) (le : steps ≤ more) (key : List Nat) :
    arena.extendOrderKey more node key = arena.extendOrderKey steps node key := by
  induction more, le using Nat.le_induction with
  | base => rfl
  | succ more le ih =>
    rw [extendOrderKey_succ (Outline.climb_eq_none_of_le ended le), ih]

/-- Every walk towards the root is exact: it would find the same with more steps, and what it finds is what lies above a
node at any distance. -/
structure HasWholeWalks (arena : Arena) : Prop where
  lineage : ∀ node steps, maxAncestorSteps ≤ steps →
    arena.outline.lineageWithin steps node = arena.outline.lineage node
  ancestors : ∀ node steps, maxAncestorSteps ≤ steps →
    arena.outline.ancestorsWithin node steps node = arena.outline.ancestors node
  orderKey : ∀ node steps, maxAncestorSteps < steps →
    arena.extendOrderKey steps node [] = arena.orderKey node
  pathSegments : ∀ node steps, maxAncestorSteps ≤ steps →
    arena.pathSegments steps node = arena.pathSegments maxAncestorSteps node
  contains_iff : ∀ above node, arena.outline.contains above node ↔ arena.outline.Encloses above node
  mem_ancestors_iff : ∀ above node, above ∈ arena.outline.ancestors node ↔
    arena.outline.isElement above ∧ arena.outline.IsAncestor above node
  documentOf_iff : ∀ node document, arena.outline.documentOf node = some document ↔
    arena.outline.Encloses document node ∧ arena.kind document = .document

namespace HangsFrom

variable {outermost : Nat} (hanging : arena.HangsFrom outermost)
include hanging

/-- From every node the way out leads to the outermost document in fewer steps than a walk takes. -/
theorem exists_climb_throughFrames {node : Handle} (lt : node < arena.size) :
    ∃ steps < maxAncestorSteps, arena.throughFrames.climb steps node = some outermost := by
  obtain ⟨level, below, hangs⟩ := hanging.hangs lt
  exact ⟨level, below, hangs.climb_throughFrames⟩

/-- Through frames too, every climb ends within the bound. -/
theorem climb_throughFrames_eq_none (node : Handle) :
    arena.throughFrames.climb maxAncestorSteps node = none := by
  by_cases lt : node < arena.size
  · obtain ⟨steps, below, reaches⟩ := hanging.exists_climb_throughFrames lt
    refine Outline.climb_eq_none_of_le ?_ below
    have ends : arena.throughFrames.parent outermost = none := hanging.page.outward
    rw [Outline.climb_succ_last, reaches, Option.bind_some, ends]
  · have outside := (arena.record?_eq_none_iff node).mpr (Nat.le_of_not_lt lt)
    have noLink : arena.throughFrames.parent node = none := by
      simp [throughFrames, outward, frameOwner, content?, parent, outside]
    have ends : arena.throughFrames.climb 1 node = none := by
      rw [Outline.climb_one, noLink]
    exact Outline.climb_eq_none_of_le ends (by decide)

/-- Where all nodes hang from one document, no walk towards the root is cut off. -/
theorem hasWholeWalks : arena.HasWholeWalks where
  lineage node _ le := Outline.lineageWithin_eq_of_ended (hanging.isShallow node) le
  ancestors node _ le := Outline.ancestorsWithin_eq_of_ended (hanging.isShallow node) le
  orderKey node _ lt :=
    extendOrderKey_eq_of_ended (Outline.climb_eq_none_of_le (hanging.isShallow node) (by decide)) lt []
  pathSegments node _ le := pathSegments_eq_of_ended (hanging.climb_throughFrames_eq_none node) le
  contains_iff _ _ := hanging.isShallow.contains_iff
  mem_ancestors_iff _ _ :=
    hanging.links.isLinked.mem_ancestors_iff hanging.hasLeafTexts hanging.isShallow
  documentOf_iff _ _ := hanging.documentOf_eq_some_iff

end HangsFrom

end Arena

end ElementSearch
