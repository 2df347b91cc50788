import ElementSearch.Arena.Order
import ElementSearch.Proofs.Arena.Links
import ElementSearch.Proofs.Tree.SharedLinks

/-!
# Document order is preorder

The key of a node extends that of its parent by the place of the node among its siblings. So a walk down visits
nodes in the order of their keys, and sorting nodes of a subtree by their keys gives them in the order of the walk:
`inDocumentOrder_eq_filter`. Keys are complete where walks towards the root are long enough.
-/

namespace ElementSearch.Arena

section SharedLinks

variable {before after : Arena} {known : Handle → Prop}
  (shares : before.outline.SharesLinksOn after.outline known)
include shares

/-- The order key of a node is read off links that both arenas share. -/
theorem extendOrderKey_of_sharesLinks (steps : Nat) {node : Handle} (isKnown : known node) (key : List Nat) :
    after.extendOrderKey steps node key = before.extendOrderKey steps node key := by
  have parents : ∀ {node}, known node → after.parent node = before.parent node := shares.parent
  have childrens : ∀ {node}, known node → after.children node = before.children node := shares.children
  induction steps generalizing node key with
  | zero => rfl
  | succ steps ih =>
    rw [extendOrderKey, extendOrderKey, parents isKnown]
    cases linked : before.parent node with
    | none => rfl
    | some up =>
      have upKnown := shares.known_parent isKnown linked
      simp only [childrens upKnown, ih upKnown]

/-- The order of nodes depends on links only. -/
theorem inDocumentOrder_of_sharesLinks {nodes : List Handle} (allKnown : ∀ node ∈ nodes, known node) :
    after.inDocumentOrder nodes = before.inDocumentOrder nodes := by
  have keyed : (nodes.map fun node => (after.orderKey node, node)) =
      nodes.map fun node => (before.orderKey node, node) :=
    List.map_congr_left fun node member => by
      rw [orderKey, orderKey, extendOrderKey_of_sharesLinks shares _ (allKnown node member)]
  rw [inDocumentOrder, inDocumentOrder, keyed]

end SharedLinks

section Keys

/-- Whether a key comes before another one. -/
def KeyLt (left right : List Nat) : Prop :=
  ¬ keyLe right left

/-- Order keys are compared by their first difference. -/
theorem keyLe_cons_iff {first other : Nat} {rest others : List Nat} :
    keyLe (first :: rest) (other :: others) ↔ first < other ∨ first = other ∧ keyLe rest others := by
  simp [keyLe]

/-- The order of keys is transitive. -/
theorem keyLe_trans {first second third : List Nat} (below : keyLe first second)
    (above : keyLe second third) : keyLe first third := by
  induction first generalizing second third with
  | nil => rfl
  | cons head rest ih =>
    cases second with
    | nil => cases below
    | cons middle between =>
      cases third with
      | nil => cases above
      | cons last others =>
        rw [keyLe_cons_iff] at below above ⊢
        rcases below with lt | ⟨rfl, below⟩
        · rcases above with further | ⟨rfl, _⟩
          · exact .inl (Nat.lt_trans lt further)
          · exact .inl lt
        · exact above.imp_right fun ⟨same, above⟩ => ⟨same, ih below above⟩

/-- Of two keys one is below the other. -/
theorem keyLe_total (left right : List Nat) : keyLe left right || keyLe right left := by
  rw [Bool.or_eq_true]
  induction left generalizing right with
  | nil => exact .inl rfl
  | cons first rest ih =>
    cases right with
    | nil => exact .inr rfl
    | cons other others =>
      rw [keyLe_cons_iff, keyLe_cons_iff]
      rcases Nat.lt_trichotomy first other with lt | rfl | gt
      · exact .inl (.inl lt)
      · exact (ih others).imp (fun below => .inr ⟨rfl, below⟩) fun above => .inr ⟨rfl, above⟩
      · exact .inr (.inl gt)

/-- Keys below each other are equal. -/
theorem keyLe_antisymm {left right : List Nat} (below : keyLe left right)
    (above : keyLe right left) : left = right := by
  induction left generalizing right with
  | nil =>
    cases right with
    | nil => rfl
    | cons => cases above
  | cons first rest ih =>
    cases right with
    | nil => cases below
    | cons other others =>
      rw [keyLe_cons_iff] at below above
      rcases below with lt | ⟨rfl, below⟩
      · rcases above with gt | ⟨same, _⟩
        · exact absurd lt (Nat.lt_asymm gt)
        · exact absurd same (Nat.ne_of_gt lt)
      · rcases above with gt | ⟨_, above⟩
        · exact absurd gt (Nat.lt_irrefl first)
        · rw [ih below above]

/-- A key strictly below another is below it. -/
theorem KeyLt.le {left right : List Nat} (lt : KeyLt left right) : keyLe left right :=
  (Bool.or_eq_true _ _ ▸ keyLe_total left right).resolve_right lt

/-- A key strictly below another differs from it. -/
theorem KeyLt.ne {left right : List Nat} (lt : KeyLt left right) : left ≠ right := by
  rintro rfl
  exact lt (keyLe_refl left)

/-- A key is strictly below its proper extensions: a node stands before its descendants. -/
theorem keyLt_append_of_ne_nil (key : List Nat) {more : List Nat} (ne : more ≠ []) :
    KeyLt key (key ++ more) := by
  unfold KeyLt
  induction key with
  | nil =>
    obtain ⟨first, rest, rfl⟩ := List.exists_cons_of_ne_nil ne
    exact Bool.false_ne_true
  | cons first rest ih =>
    rw [List.cons_append, keyLe_cons_iff]
    rintro (lt | ⟨_, le⟩)
    · exact Nat.lt_irrefl first lt
    · exact ih le

/-- Keys that agree up to some place compare as they do at that place. -/
theorem keyLt_append_cons (key : List Nat) {left right : Nat} (lt : left < right)
    (more further : List Nat) : KeyLt (key ++ left :: more) (key ++ right :: further) := by
  unfold KeyLt
  induction key with
  | nil =>
    rw [List.nil_append, List.nil_append, keyLe_cons_iff]
    rintro (gt | ⟨same, _⟩)
    · exact Nat.lt_asymm lt gt
    · exact Nat.ne_of_gt lt same
  | cons first rest ih =>
    rw [List.cons_append, List.cons_append, keyLe_cons_iff]
    rintro (gt | ⟨_, le⟩)
    · exact Nat.lt_irrefl first gt
    · exact ih le

end Keys

variable {arena : Arena}

/-- Nodes that are in the order of their keys are what sorting makes of them. -/
theorem inDocumentOrder_eq {nodes sorted : List Handle} (perm : nodes.Perm sorted)
    (ascending : sorted.Pairwise fun first second =>
      KeyLt (arena.orderKey first) (arena.orderKey second)) :
    arena.inDocumentOrder nodes = sorted := by
  let keyed := List.map fun node : Handle => (arena.orderKey node, node)
  let le := fun left right : List Nat × Handle => keyLe left.1 right.1
  have trans : ∀ first second third, le first second → le second third → le first third :=
    fun _ _ _ => keyLe_trans
  have total : ∀ left right, le left right || le right left :=
    fun left right => keyLe_total left.1 right.1
  have ordered : ((keyed nodes).mergeSort le).Pairwise fun left right => le left right :=
    List.pairwise_mergeSort trans total _
  have isSorted : (keyed sorted).Pairwise fun left right => le left right :=
    List.pairwise_map.mpr (ascending.imp KeyLt.le)
  have permKeyed : ((keyed nodes).mergeSort le).Perm (keyed sorted) :=
    (List.mergeSort_perm _ _).trans (perm.map _)
  have distinctKeys : (sorted.map arena.orderKey).Nodup :=
    List.pairwise_map.mpr (ascending.imp KeyLt.ne)
  -- both lists are sorted permutations, and distinct keys leave no choice between them
  have same : (keyed nodes).mergeSort le = keyed sorted := by
    refine permKeyed.eq_of_pairwise ?_ ordered isSorted
    intro left right inLeft inRight below above
    obtain ⟨first, isFirst, rfl⟩ := List.mem_map.mp (permKeyed.mem_iff.mp inLeft)
    obtain ⟨second, isSecond, rfl⟩ := List.mem_map.mp inRight
    have sameKey : arena.orderKey first = arena.orderKey second := keyLe_antisymm below above
    rw [List.inj_on_of_nodup_map distinctKeys isFirst isSecond sameKey]
  change ((keyed nodes).mergeSort le).map (·.2) = sorted
  rw [same]
  simp [keyed, Function.comp_def]

section OrderKey

/-- What stands at the end of a key is carried along by the climb. -/
theorem extendOrderKey_append (steps : Nat) (node : Handle) (key more : List Nat) :
    arena.extendOrderKey steps node (key ++ more) = arena.extendOrderKey steps node key ++ more := by
  induction steps generalizing node key with
  | zero => rfl
  | succ steps ih =>
    unfold extendOrderKey
    cases arena.parent node with
    | none => rfl
    | some parent => exact ih parent (_ :: key)

/-- Steps that go beyond the root change nothing. -/
theorem extendOrderKey_succ {steps : Nat} {node : Handle}
    (ended : arena.outline.climb steps node = none) (key : List Nat) :
    arena.extendOrderKey (steps + 1) node key = arena.extendOrderKey steps node key := by
  induction steps generalizing node key with
  | zero => cases ended
  | succ steps ih =>
    rw [extendOrderKey, extendOrderKey]
    cases linked : arena.parent node with
    | none => rfl
    | some parent =>
      have up : arena.outline.parent node = some parent := linked
      have further : arena.outline.climb steps parent = none := by
        rwa [Outline.climb_succ_of_parent up] at ended
      exact ih further _

variable (shallow : arena.outline.IsShallow)
include shallow

/-- The key of a node extends that of its parent by its place among its siblings. -/
theorem orderKey_of_parent {parent child : Handle} (linked : arena.parent child = some parent) :
    arena.orderKey child =
      arena.orderKey parent ++ [((arena.children parent).idxOf? child).getD 0] := by
  unfold orderKey
  rw [extendOrderKey_succ (shallow parent), extendOrderKey, linked, ← extendOrderKey_append]
  rfl

/-- The key of a node extends the keys of the nodes above it. -/
theorem exists_orderKey_append {above node : Handle} (encloses : arena.outline.Encloses above node) :
    ∃ more, arena.orderKey node = arena.orderKey above ++ more := by
  obtain ⟨links, reaches⟩ := encloses
  induction links generalizing node with
  | zero => exact ⟨[], by rw [Option.some.inj reaches, List.append_nil]⟩
  | succ links ih =>
    obtain ⟨parent, linked, further⟩ := Outline.climb_succ_eq_some_iff.mp reaches
    obtain ⟨more, isLonger⟩ := ih further
    exact ⟨_, by rw [orderKey_of_parent shallow linked, isLonger, List.append_assoc]⟩

/-- A node lies before what is below it. -/
theorem orderKey_lt_of_isAncestor {above node : Handle}
    (ancestor : arena.outline.IsAncestor above node) :
    KeyLt (arena.orderKey above) (arena.orderKey node) := by
  obtain ⟨child, linked, encloses⟩ := Outline.isAncestor_iff_child.mp ancestor
  obtain ⟨more, isLonger⟩ := exists_orderKey_append shallow encloses
  rw [isLonger, orderKey_of_parent shallow linked, List.append_assoc]
  exact keyLt_append_of_ne_nil _ (by simp)

/-- What is below a node lies before what is below a later sibling. -/
theorem orderKey_lt_of_siblings {parent first second left right : Handle}
    (isFirst : arena.parent first = some parent) (isSecond : arena.parent second = some parent)
    (lt : ((arena.children parent).idxOf? first).getD 0 <
      ((arena.children parent).idxOf? second).getD 0)
    (inFirst : arena.outline.Encloses first left) (inSecond : arena.outline.Encloses second right) :
    KeyLt (arena.orderKey left) (arena.orderKey right) := by
  obtain ⟨more, isLeft⟩ := exists_orderKey_append shallow inFirst
  obtain ⟨further, isRight⟩ := exists_orderKey_append shallow inSecond
  rw [isLeft, isRight, orderKey_of_parent shallow isFirst, orderKey_of_parent shallow isSecond,
    List.append_assoc, List.append_assoc]
  exact keyLt_append_cons _ lt _ _

end OrderKey

/-- The places of siblings ascend. -/
theorem pairwise_idxOf? {nodes : List Handle} (nodup : nodes.Nodup) :
    nodes.Pairwise fun first second =>
      (nodes.idxOf? first).getD 0 < (nodes.idxOf? second).getD 0 := by
  induction nodes with
  | nil => exact .nil
  | cons node rest ih =>
    obtain ⟨fresh, nodupRest⟩ := List.nodup_cons.mp nodup
    have further : ∀ other ∈ rest,
        ((node :: rest).idxOf? other).getD 0 = (rest.idxOf? other).getD 0 + 1 := by
      intro other member
      have differs : node ≠ other := fun same => fresh (same ▸ member)
      obtain ⟨place, found⟩ := Option.isSome_iff_exists.mp (List.isSome_idxOf?.mpr member)
      simp [List.idxOf?_cons, differs, found]
    refine List.pairwise_cons.mpr ⟨fun other member => ?_, ?_⟩
    · rw [further other member]
      simp [List.idxOf?_cons]
    · refine (ih nodupRest).imp_of_mem fun {first second} isFirst isSecond lt => ?_
      rw [further first isFirst, further second isSecond]
      exact Nat.succ_lt_succ lt

section Walk

variable (links : arena.HasLinks) (shallow : arena.outline.IsShallow)
include links shallow

/-- A walk down visits nodes in the order of their keys. -/
theorem pairwise_descendantsWithin (depth : Nat) (scope : Handle) :
    (arena.outline.descendantsWithin depth scope).Pairwise fun first second =>
      KeyLt (arena.orderKey first) (arena.orderKey second) := by
  induction depth generalizing scope with
  | zero => exact .nil
  | succ depth ih =>
    have encloses : ∀ child, ∀ node ∈ child :: arena.outline.descendantsWithin depth child,
        arena.outline.Encloses child node := by
      intro child node member
      rcases List.mem_cons.mp member with rfl | below
      · exact .refl node
      · exact (links.isLinked.of_mem_descendantsWithin below).2.encloses
    have up : ∀ child ∈ arena.outline.elementChildren scope, arena.parent child = some scope :=
      fun child isChild => (links.isLinked.mem_elementChildren_iff.mp isChild).1
    unfold Outline.descendantsWithin
    refine List.pairwise_flatMap.mpr ⟨fun child _ => ?_, ?_⟩
    · refine List.pairwise_cons.mpr ⟨fun node below => ?_, ih child⟩
      exact orderKey_lt_of_isAncestor shallow (links.isLinked.of_mem_descendantsWithin below).2
    · have ascending := (pairwise_idxOf? (links.nodup_children scope)).filter arena.outline.isElement
      refine ascending.imp_of_mem fun {first second} isFirst isSecond lt => ?_
      intro left inFirst right inSecond
      exact orderKey_lt_of_siblings shallow (up first isFirst) (up second isSecond) lt
        (encloses first left inFirst) (encloses second right inSecond)

/-- No node is listed twice among the descendants of another. -/
theorem nodup_descendants (scope : Handle) : (arena.outline.descendants scope).Nodup :=
  (pairwise_descendantsWithin links shallow _ scope).imp fun lt same =>
    KeyLt.ne lt (congrArg arena.orderKey same)

/-- Sorting picked descendants of a node gives them in the order of the walk. -/
theorem inDocumentOrder_eq_filter {nodes : List Handle} (nodup : nodes.Nodup) {scope : Handle}
    {picked : Handle → Bool}
    (mem_iff : ∀ node, node ∈ nodes ↔ node ∈ arena.outline.descendants scope ∧ picked node) :
    arena.inDocumentOrder nodes = (arena.outline.descendants scope).filter picked := by
  refine inDocumentOrder_eq ?_ ((pairwise_descendantsWithin links shallow _ scope).filter picked)
  refine (List.perm_ext_iff_of_nodup nodup ((nodup_descendants links shallow scope).filter _)).mpr ?_
  intro node
  rw [mem_iff, List.mem_filter]

end Walk

end ElementSearch.Arena
