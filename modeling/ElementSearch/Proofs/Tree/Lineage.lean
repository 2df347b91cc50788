import ElementSearch.Tree.Outline
import Mathlib.Data.List.Nodup
import Mathlib.Data.List.Perm.Subperm

/-!
# Climbing towards the root

`climb` follows parent links without a bound and says what a bounded walk towards the root misses: the
lineage of a node holds what lies fewer than `maxAncestorSteps` links above it. In an outline none of whose
chains of parents is that long, `contains` and `documentOf` are exact.
-/

namespace ElementSearch.Outline

variable {Node : Type}

section Climbing

variable (outline : Outline Node)

/-- The node that lies a number of parent links above a node. -/
def climb : Nat → Node → Option Node
  | 0, node => some node
  | links + 1, node => (outline.parent node).bind (climb links)

/-- Whether a node is another one or lies above it, at any distance. -/
def Encloses (above node : Node) : Prop :=
  ∃ links, outline.climb links node = some above

/-- Whether a node lies above another one, at any distance. -/
def IsAncestor (above node : Node) : Prop :=
  ∃ links, outline.climb (links + 1) node = some above

/-- No chain of parents has as many links as a walk towards the root takes steps. -/
def IsShallow : Prop :=
  ∀ node, outline.climb maxAncestorSteps node = none

/-- No node lies above itself. -/
def IsAcyclic : Prop :=
  ∀ node, ¬ outline.IsAncestor node node

end Climbing

variable {outline : Outline Node}

@[simp] theorem climb_zero (node : Node) : outline.climb 0 node = some node := rfl

/-- The first step of a climb leads to the parent. -/
theorem climb_succ (links : Nat) (node : Node) :
    outline.climb (links + 1) node = (outline.parent node).bind (outline.climb links) := rfl

/-- A climb of one more link goes by the parent of the node. -/
theorem climb_succ_eq_some_iff {links : Nat} {node above : Node} :
    outline.climb (links + 1) node = some above ↔
      ∃ parent, outline.parent node = some parent ∧ outline.climb links parent = some above :=
  Option.bind_eq_some_iff

/-- From a node with a parent, a climb goes on from the parent. -/
theorem climb_succ_of_parent {links : Nat} {node parent : Node}
    (linked : outline.parent node = some parent) :
    outline.climb (links + 1) node = outline.climb links parent := by
  rw [climb_succ, linked, Option.bind_some]

/-- One link leads to the parent. -/
@[simp] theorem climb_one (node : Node) : outline.climb 1 node = outline.parent node := by
  rw [climb_succ]
  cases outline.parent node <;> rfl

/-- Climbs compose: first the lower links, then the upper ones. -/
theorem climb_add (lower upper : Nat) (node : Node) :
    outline.climb (lower + upper) node =
      (outline.climb lower node).bind (outline.climb upper) := by
  induction lower generalizing node with
  | zero => simp
  | succ lower ih =>
    rw [Nat.succ_add_eq_add_succ, Nat.add_succ, climb_succ, climb_succ, Option.bind_assoc]
    exact Option.bind_congr fun parent _ => ih parent

/-- A climb can end with its last link. -/
theorem climb_succ_last (links : Nat) (node : Node) :
    outline.climb (links + 1) node = (outline.climb links node).bind outline.parent := by
  rw [climb_add]
  exact Option.bind_congr fun above _ => climb_one above

/-- A climb of one more link ends at the parent of where it was. -/
theorem climb_succ_last_eq_some_iff {links : Nat} {node above : Node} :
    outline.climb (links + 1) node = some above ↔
      ∃ child, outline.climb links node = some child ∧ outline.parent child = some above := by
  rw [climb_succ_last, Option.bind_eq_some_iff]

/-- A climb that has ended does not go on. -/
theorem climb_eq_none_of_le {node : Node} {links more : Nat}
    (ended : outline.climb links node = none) (le : links ≤ more) :
    outline.climb more node = none := by
  obtain ⟨extra, rfl⟩ := Nat.exists_eq_add_of_le le
  rw [climb_add, ended, Option.bind_none]

/-- Two climbs from one node: the longer one goes on from where the shorter one ends. -/
theorem climb_sub {node lower upper : Node} {short long : Nat}
    (first : outline.climb short node = some lower)
    (second : outline.climb long node = some upper) (le : short ≤ long) :
    outline.climb (long - short) lower = some upper := by
  obtain ⟨extra, rfl⟩ := Nat.exists_eq_add_of_le le
  rw [climb_add, first, Option.bind_some] at second
  simpa using second

theorem Encloses.refl (node : Node) : outline.Encloses node node := ⟨0, rfl⟩

/-- What encloses a node encloses all that the node encloses. -/
theorem Encloses.trans {upper middle lower : Node} (above : outline.Encloses upper middle)
    (below : outline.Encloses middle lower) : outline.Encloses upper lower := by
  obtain ⟨high, reachesUpper⟩ := above
  obtain ⟨low, reachesMiddle⟩ := below
  exact ⟨low + high, by rw [climb_add, reachesMiddle, Option.bind_some, reachesUpper]⟩

/-- What encloses one node is linearly ordered. -/
theorem Encloses.total {first second node : Node} (left : outline.Encloses first node)
    (right : outline.Encloses second node) :
    outline.Encloses first second ∨ outline.Encloses second first := by
  obtain ⟨toFirst, reachesFirst⟩ := left
  obtain ⟨toSecond, reachesSecond⟩ := right
  rcases Nat.le_total toFirst toSecond with le | le
  · exact .inr ⟨_, climb_sub reachesFirst reachesSecond le⟩
  · exact .inl ⟨_, climb_sub reachesSecond reachesFirst le⟩

/-- An ancestor encloses its descendants. -/
theorem IsAncestor.encloses {above node : Node} (ancestor : outline.IsAncestor above node) :
    outline.Encloses above node := by
  obtain ⟨links, reaches⟩ := ancestor
  exact ⟨links + 1, reaches⟩

/-- A node is enclosed by itself and its ancestors. -/
theorem encloses_iff_eq_or_isAncestor {above node : Node} :
    outline.Encloses above node ↔ node = above ∨ outline.IsAncestor above node := by
  constructor
  · rintro ⟨_ | links, reaches⟩
    · exact .inl (Option.some.inj reaches)
    · exact .inr ⟨links, reaches⟩
  · rintro (rfl | ancestor)
    · exact .refl node
    · exact ancestor.encloses

/-- What encloses another node is its ancestor. -/
theorem Encloses.isAncestor_of_ne {above node : Node} (encloses : outline.Encloses above node)
    (ne : above ≠ node) : outline.IsAncestor above node :=
  (encloses_iff_eq_or_isAncestor.mp encloses).resolve_left fun same => ne same.symm

/-- What lies above a node is its parent or lies above its parent. -/
theorem isAncestor_iff_parent {above node : Node} :
    outline.IsAncestor above node ↔
      ∃ parent, outline.parent node = some parent ∧ outline.Encloses above parent := by
  unfold IsAncestor Encloses
  simp only [climb_succ_eq_some_iff]
  constructor
  · rintro ⟨links, parent, linked, reaches⟩
    exact ⟨parent, linked, links, reaches⟩
  · rintro ⟨parent, linked, links, reaches⟩
    exact ⟨links, parent, linked, reaches⟩

/-- A parent is an ancestor. -/
theorem isAncestor_of_parent {parent node : Node} (linked : outline.parent node = some parent) :
    outline.IsAncestor parent node :=
  isAncestor_iff_parent.mpr ⟨parent, linked, .refl parent⟩

/-- What lies above a node has one of its children on the way down to the node. -/
theorem isAncestor_iff_child {above node : Node} :
    outline.IsAncestor above node ↔
      ∃ child, outline.parent child = some above ∧ outline.Encloses child node := by
  unfold IsAncestor Encloses
  simp only [climb_succ_last_eq_some_iff]
  constructor
  · rintro ⟨links, child, reaches, linked⟩
    exact ⟨child, linked, links, reaches⟩
  · rintro ⟨child, linked, links, reaches⟩
    exact ⟨links, child, reaches, linked⟩

/-- An ancestor of what encloses a node is an ancestor of the node. -/
theorem IsAncestor.trans_encloses {upper middle lower : Node}
    (above : outline.IsAncestor upper middle) (below : outline.Encloses middle lower) :
    outline.IsAncestor upper lower := by
  obtain ⟨child, linked, encloses⟩ := isAncestor_iff_child.mp above
  exact isAncestor_iff_child.mpr ⟨child, linked, encloses.trans below⟩

/-- What encloses an ancestor of a node is an ancestor of the node. -/
theorem Encloses.trans_isAncestor {upper middle lower : Node}
    (above : outline.Encloses upper middle) (below : outline.IsAncestor middle lower) :
    outline.IsAncestor upper lower := by
  obtain ⟨parent, linked, encloses⟩ := isAncestor_iff_parent.mp below
  exact isAncestor_iff_parent.mpr ⟨parent, linked, above.trans encloses⟩

/-- Without cycles, two nodes that enclose each other are one. -/
theorem IsAcyclic.antisymm (acyclic : outline.IsAcyclic) {first second : Node}
    (down : outline.Encloses first second) (up : outline.Encloses second first) :
    first = second := by
  by_contra ne
  exact acyclic first ((down.isAncestor_of_ne ne).trans_encloses up)

/-- Without cycles, siblings do not enclose each other, so at most one child of a node encloses another
node. -/
theorem IsAcyclic.eq_of_siblings (acyclic : outline.IsAcyclic) {parent first second node : Node}
    (left : outline.parent first = some parent) (right : outline.parent second = some parent)
    (inFirst : outline.Encloses first node) (inSecond : outline.Encloses second node) :
    first = second := by
  have apart : ∀ {upper lower : Node}, outline.parent upper = some parent →
      outline.parent lower = some parent → outline.Encloses upper lower → upper = lower := by
    intro upper lower upperUp lowerUp encloses
    by_contra ne
    obtain ⟨above, up, further⟩ := isAncestor_iff_parent.mp (encloses.isAncestor_of_ne ne)
    rw [Option.some.inj (up.symm.trans lowerUp)] at further
    exact acyclic parent (isAncestor_iff_child.mpr ⟨upper, upperUp, further⟩)
  rcases inFirst.total inSecond with encloses | encloses
  · exact apart left right encloses
  · exact (apart right left encloses).symm

/-- A climb that comes back to its start can go around any number of times. -/
theorem climb_mul_of_cycle {node : Node} {links : Nat}
    (cycle : outline.climb links node = some node) (rounds : Nat) :
    outline.climb (rounds * links) node = some node := by
  induction rounds with
  | zero => simp
  | succ rounds ih => rw [Nat.succ_mul, climb_add, ih, Option.bind_some, cycle]

/-- Around a cycle every climb can be continued, so none leads through a node from which some climb ends. -/
theorem not_isAncestor_self_of_climb_eq_none {node : Node} {links : Nat}
    (ended : outline.climb links node = none) : ¬ outline.IsAncestor node node := by
  rintro ⟨more, cycle⟩
  have continued := climb_eq_none_of_le ended (Nat.le_mul_of_pos_right links (Nat.succ_pos more))
  rw [climb_mul_of_cycle cycle] at continued
  cases continued

/-- A climb around a cycle would never end, so a shallow outline has none. -/
theorem IsShallow.isAcyclic (shallow : outline.IsShallow) : outline.IsAcyclic :=
  fun node => not_isAncestor_self_of_climb_eq_none (shallow node)

/-- A lineage that is cut off after some nodes holds what fewer links lead to. -/
theorem mem_lineageWithin_iff {steps : Nat} {above node : Node} :
    above ∈ outline.lineageWithin steps node ↔
      ∃ links < steps, outline.climb links node = some above := by
  induction steps generalizing node with
  | zero => simp [lineageWithin]
  | succ steps ih =>
    unfold lineageWithin
    constructor
    · intro member
      rcases List.mem_cons.mp member with rfl | member
      · exact ⟨0, Nat.succ_pos steps, rfl⟩
      · cases linked : outline.parent node with
        | none => simp [linked] at member
        | some parent =>
          rw [linked] at member
          obtain ⟨links, lt, reaches⟩ := ih.mp member
          refine ⟨links + 1, Nat.succ_lt_succ lt, ?_⟩
          exact climb_succ_eq_some_iff.mpr ⟨parent, linked, reaches⟩
    · rintro ⟨_ | links, lt, reaches⟩
      · rw [Option.some.inj reaches]
        exact List.mem_cons_self
      · obtain ⟨parent, linked, reaches⟩ := climb_succ_eq_some_iff.mp reaches
        rw [linked]
        exact List.mem_cons_of_mem _ (ih.mpr ⟨links, Nat.lt_of_succ_lt_succ lt, reaches⟩)

/-- The lineage holds what fewer links than the bound lead to. -/
theorem mem_lineage_iff {above node : Node} :
    above ∈ outline.lineage node ↔
      ∃ links < maxAncestorSteps, outline.climb links node = some above :=
  mem_lineageWithin_iff

/-- In a shallow outline a lineage is complete. -/
theorem IsShallow.mem_lineage_iff (shallow : outline.IsShallow) {above node : Node} :
    above ∈ outline.lineage node ↔ outline.Encloses above node := by
  rw [Outline.mem_lineage_iff]
  constructor
  · rintro ⟨links, _, reaches⟩
    exact ⟨links, reaches⟩
  · rintro ⟨links, reaches⟩
    refine ⟨links, Nat.lt_of_not_le fun le => ?_, reaches⟩
    rw [climb_eq_none_of_le (shallow node) le] at reaches
    cases reaches

/-- A lineage ends where the chain of parents does or where it is cut off. -/
theorem length_lineageWithin {links : Nat} {node above : Node}
    (reaches : outline.climb links node = some above) :
    (outline.lineageWithin (links + 1) node).length = links + 1 := by
  induction links generalizing node with
  | zero =>
    unfold lineageWithin
    cases outline.parent node <;> rfl
  | succ links ih =>
    obtain ⟨parent, linked, further⟩ := climb_succ_eq_some_iff.mp reaches
    unfold lineageWithin
    rw [linked, List.length_cons, ih further]

/-- Without cycles no lineage comes by a node twice. -/
theorem IsAcyclic.nodup_lineageWithin (acyclic : outline.IsAcyclic) (steps : Nat) (node : Node) :
    (outline.lineageWithin steps node).Nodup := by
  induction steps generalizing node with
  | zero => exact .nil
  | succ steps ih =>
    unfold lineageWithin
    cases linked : outline.parent node with
    | none => exact List.nodup_singleton node
    | some parent =>
      refine List.nodup_cons.mpr ⟨fun again => acyclic node ?_, ih parent⟩
      obtain ⟨links, _, reaches⟩ := mem_lineageWithin_iff.mp again
      exact isAncestor_iff_parent.mpr ⟨parent, linked, links, reaches⟩

/-- Without cycles a climb meets no node twice, so it has fewer links than there are nodes above. -/
theorem IsAcyclic.links_lt_length (acyclic : outline.IsAcyclic) {nodes : List Node} {node : Node}
    (holdsAll : ∀ above, outline.Encloses above node → above ∈ nodes) {links : Nat} {above : Node}
    (reaches : outline.climb links node = some above) : links < nodes.length := by
  have inside : outline.lineageWithin (links + 1) node ⊆ nodes := by
    intro other member
    obtain ⟨steps, _, reachesOther⟩ := mem_lineageWithin_iff.mp member
    exact holdsAll other ⟨steps, reachesOther⟩
  have le := (List.subperm_of_subset (acyclic.nodup_lineageWithin _ node) inside).length_le
  rw [length_lineageWithin reaches] at le
  exact le

section Identity

variable [DecidableEq Node]

/-- Containment sees what fewer links than the bound lead to. -/
theorem contains_iff {above node : Node} :
    outline.contains above node ↔
      ∃ links < maxAncestorSteps, outline.climb links node = some above := by
  rw [contains, decide_eq_true_iff, mem_lineage_iff]

/-- In a shallow outline `contains` is exact. -/
theorem IsShallow.contains_iff (shallow : outline.IsShallow) {above node : Node} :
    outline.contains above node ↔ outline.Encloses above node := by
  rw [contains, decide_eq_true_iff, shallow.mem_lineage_iff]

end Identity

end ElementSearch.Outline
