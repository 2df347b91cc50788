import ElementSearch.Arena.Host
import ElementSearch.Proofs.Arena.Links

/-!
# Consistent links and accesses in bounds

A link is stored at both of its ends, and a handle is stored as a number. In every reachable arena both ends of each
link agree and every stored handle names a node:

- a node has a parent if and only if it is one of the children of that parent, once, and of nobody else,
- documents have no parent, and
- what is inside a frame is a document.

A move and the key of document order look records up by stored handles without asking whether they are there.
`appendChild?` and `orderKey?` are the same operations with every one of these accesses checked: none of them
misses, whether the operation succeeds or fails.
-/

namespace ElementSearch.Arena

section Checked

variable (arena : Arena)

/-- Changes the record of a node. Nothing if the handle names none. -/
def modifyRecord? (node : Handle) (change : Record → Record) : Option Arena :=
  if node < arena.size then some (arena.modifyRecord node change) else none

/-- Takes a node away from its parent, with checked accesses. -/
def detach? (child : Handle) : Option Arena := do
  let record ← arena.record? child
  match record.parent with
  | none => some arena
  | some former =>
    let cleared ← arena.modifyRecord? former fun record =>
      { record with children := record.children.filter (· ≠ child) }
    cleared.modifyRecord? child fun record => { record with parent := none }

/-- Moves a node behind the last child of another one, with checked accesses. -/
def attach? (parent child : Handle) : Option Arena := do
  let detached ← arena.detach? child
  let linked ← detached.modifyRecord? child fun record => { record with parent := some parent }
  linked.modifyRecord? parent fun record => { record with children := record.children ++ [child] }

/-- Moves a node as `appendChild` does, with checked accesses. Nothing if one of them misses. -/
def appendChild? (parent child : Handle) : Option (Arena × Except TreeError Unit) :=
  match arena.appendError? parent child with
  | some error => some (arena, .error error)
  | none => (arena.attach? parent child).map fun moved => (moved, .ok ())

/-- Extends a key upwards as `extendOrderKey` does, with checked accesses. -/
def extendOrderKey? : Nat → Handle → List Nat → Option (List Nat)
  | 0, node, key => some (node :: key)
  | steps + 1, node, key =>
    match arena.parent node with
    | none => some (node :: key)
    | some parent => do
      let record ← arena.record? parent
      extendOrderKey? steps parent ((record.children.idxOf? node).getD 0 :: key)

/-- The key by which a node is ordered, with checked accesses. Nothing if one of them misses. -/
def orderKey? (node : Handle) : Option (List Nat) :=
  arena.extendOrderKey? (maxAncestorSteps + 1) node []

end Checked

variable {arena : Arena}

/-- Changing the record of a node in range does not fail the bounds check. -/
theorem modifyRecord?_eq {node : Handle} (lt : node < arena.size) (change : Record → Record) :
    arena.modifyRecord? node change = some (arena.modifyRecord node change) :=
  if_pos lt

section Linked

variable (links : arena.HasLinks)
include links

/-- Detaching reads and writes in range only: the former parent of a node in range is in range. -/
theorem HasLinks.detach?_eq {child : Handle} (lt : child < arena.size) :
    arena.detach? child = some (arena.detach child) := by
  obtain ⟨record, present⟩ := Option.isSome_iff_exists.mp ((arena.record?_isSome_iff child).mpr lt)
  have up := parent_of_record? present
  unfold detach? detach
  rw [present, up, Option.bind_eq_bind, Option.bind_some]
  cases isParent : record.parent with
  | none => rfl
  | some former =>
    have formerLt := links.parent_lt (up.trans isParent)
    simp only [modifyRecord?_eq formerLt, Option.bind_eq_bind, Option.bind_some]
    exact modifyRecord?_eq (by simpa using lt) _

/-- Attaching a node in range to a node in range reads and writes in range only. -/
theorem HasLinks.attach?_eq {parent child : Handle} (parentLt : parent < arena.size)
    (childLt : child < arena.size) : arena.attach? parent child = some (arena.attach parent child) := by
  unfold attach? Arena.attach
  rw [links.detach?_eq childLt, Option.bind_eq_bind, Option.bind_some,
    modifyRecord?_eq (by simpa using childLt), Option.bind_some]
  exact modifyRecord?_eq (by simpa using parentLt) _

/-- No access of a move misses, whether the move is accepted or refused. -/
theorem HasLinks.appendChild?_eq (parent child : Handle) :
    arena.appendChild? parent child = some (arena.appendChild parent child) := by
  unfold appendChild? appendChild
  cases refused : arena.appendError? parent child with
  | some error => rfl
  | none =>
    obtain ⟨parentLt, childLt, _⟩ := arena.appendError?_eq_none_iff.mp refused
    simp only [links.attach?_eq parentLt childLt, Option.map_some]

/-- Climbing for an order key reads in range only: each parent on the way is a node of the arena.
-/
theorem HasLinks.extendOrderKey?_eq (steps : Nat) (node : Handle) (key : List Nat) :
    arena.extendOrderKey? steps node key = some (arena.extendOrderKey steps node key) := by
  induction steps generalizing node key with
  | zero => rfl
  | succ steps ih =>
    unfold extendOrderKey? extendOrderKey
    cases up : arena.parent node with
    | none => rfl
    | some parent =>
      have lt := links.parent_lt up
      obtain ⟨record, present⟩ :=
        Option.isSome_iff_exists.mp ((arena.record?_isSome_iff parent).mpr lt)
      simp only [present, Option.bind_eq_bind, Option.bind_some, children_of_record? present]
      exact ih parent _

/-- No access on the way up to a root misses. -/
theorem HasLinks.orderKey?_eq (node : Handle) : arena.orderKey? node = some (arena.orderKey node) :=
  links.extendOrderKey?_eq _ node []

end Linked

/-- Both ends of each link of an arena agree, every stored handle names a node, and no access by a stored handle
misses. -/
structure IsConsistent (arena : Arena) : Prop where
  parent_lt : ∀ node up, arena.parent node = some up → up < arena.size
  child_lt : ∀ node, ∀ child ∈ arena.children node, child < arena.size
  content_lt : ∀ frame document, arena.host.contentDocument frame = some document →
    document < arena.size
  parent_iff : ∀ node child, arena.parent child = some node ↔ child ∈ arena.children node
  count_eq_one : ∀ node, ∀ child ∈ arena.children node, (arena.children node).count child = 1
  only_parent : ∀ node other, ∀ child ∈ arena.children node, child ∈ arena.children other →
    other = node
  parent_of_document : ∀ document, arena.kind document = .document → arena.parent document = none
  kind_of_content : ∀ frame document, arena.host.contentDocument frame = some document →
    arena.kind document = .document
  appendChild?_eq : ∀ parent child,
    arena.appendChild? parent child = some (arena.appendChild parent child)
  orderKey?_eq : ∀ node, arena.orderKey? node = some (arena.orderKey node)

/-- Consistency is the linked shape and what follows from it, spelled out link by link. -/
theorem HasLinks.isConsistent (links : arena.HasLinks) : arena.IsConsistent := by
  have isContent : ∀ frame document, arena.host.contentDocument frame = some document →
      arena.kind document = .document := by
    intro frame document inside
    obtain ⟨element, present, holds⟩ := Option.bind_eq_some_iff.mp inside
    exact links.kind_of_frame present holds
  constructor
  · exact fun node up => links.parent_lt
  · intro node child member
    exact arena.lt_size_of_parent_eq_some (links.mem_children_iff.mp member)
  · intro frame document inside
    exact arena.lt_size_of_kind_eq (isContent frame document inside) nofun
  · exact fun node child => links.mem_children_iff.symm
  · intro node child member
    exact List.count_eq_one_of_mem (links.nodup_children node) member
  · intro node other child member again
    have up := links.mem_children_iff.mp member
    exact Option.some.inj ((links.mem_children_iff.mp again).symm.trans up)
  · exact fun document => links.isLinked.parent_of_document
  · exact isContent
  · exact links.appendChild?_eq
  · exact links.orderKey?_eq

/-- Every reachable arena is consistent, and so is every arena that grows out of it: those that an operation passes
through which makes, describes and appends nodes one after the other. -/
theorem Reachable.links_consistent (reachable : arena.Reachable) :
    arena.IsConsistent ∧ ∀ passed, Grows arena passed → passed.IsConsistent :=
  ⟨reachable.hasLinks.isConsistent, fun _ grows =>
    (grows.preserves HasLinks.grow reachable.hasLinks).isConsistent⟩

section Rearranged

/-- A page in which a child was moved behind its sibling, after which moves to its own child and to a missing node
failed, and with a second document, which is put into a frame and then, in vain, into a document. -/
def rearranged : Arena :=
  empty.after
    [.createDocument none, .addElement 0 "p" [], .addElement 1 "b" [], .addElement 1 "i" [],
      .appendChild 1 2, .appendChild 2 1, .appendChild 9 2, .createDocument none,
      .attachFrame 3 4, .attachFrame 0 4, .addText 9 "lost"]

theorem reachable_rearranged : rearranged.Reachable := ⟨_, rfl⟩

/-- The moved child occurs once, below its parent only, and it can be moved again. -/
theorem links_consistent_rearranged :
    rearranged.parent 2 = some 1 ∧ (rearranged.children 1).count 2 = 1 ∧
      2 ∉ rearranged.children 9 ∧ rearranged.kind 4 = .document ∧
      rearranged.appendChild? 3 2 = some (rearranged.appendChild 3 2) := by
  have consistent := reachable_rearranged.links_consistent.1
  have child : 2 ∈ rearranged.children 1 := by decide
  have inside : rearranged.host.contentDocument 3 = some 4 := by decide
  refine ⟨(consistent.parent_iff 1 2).mpr child, consistent.count_eq_one 1 2 child, fun again => ?_,
    consistent.kind_of_content 3 4 inside, consistent.appendChild?_eq 3 2⟩
  exact absurd (consistent.only_parent 1 9 2 child again) (by decide)

end Rearranged

end ElementSearch.Arena
