import ElementSearch.Proofs.Tree.Lineage

/-!
# Chains of elements

`ancestors` follows the links of `parentElement`, which end below the first node that is no element. It leaves off where
it comes back to its origin and after `maxAncestorSteps` elements, so on every outline it holds the elements that fewer
links lead to, up to the first return (`mem_ancestors_iff_climb`). Where the chain ends in time there is no return, and
it holds all of the chain (`mem_ancestors_iff`). Links that form a cycle are not excluded by anything.
-/

namespace ElementSearch.Outline

variable {Node : Type}

/-- The outline in which a node whose parent is no element has none. -/
def throughElements (outline : Outline Node) : Outline Node :=
  { outline with parent := outline.parentElement }

/-- Whether the chain of elements above a node ends before a walk through it is given up. -/
def ChainEnds (outline : Outline Node) (node : Node) : Prop :=
  outline.throughElements.climb (maxAncestorSteps + 1) node = none

variable {outline : Outline Node} {node above : Node}

/-- A chain that ends does not come back to where it starts. -/
theorem ChainEnds.not_isAncestor_self (ends : outline.ChainEnds node) :
    ¬ outline.throughElements.IsAncestor node node :=
  not_isAncestor_self_of_climb_eq_none ends

/-- Higher up, a chain that ends is no longer. -/
theorem ChainEnds.of_encloses (ends : outline.ChainEnds node)
    (encloses : outline.throughElements.Encloses above node) : outline.ChainEnds above := by
  obtain ⟨links, reaches⟩ := encloses
  have further : outline.throughElements.climb (links + (maxAncestorSteps + 1)) node = none :=
    climb_eq_none_of_le ends (Nat.le_add_left _ links)
  rwa [climb_add, reaches, Option.bind_some] at further

variable [DecidableEq Node]

/-- A walk through elements finds what so few links lead to that it has not come back to its origin before. -/
theorem mem_ancestorsWithin_iff_climb {origin : Node} {steps : Nat} :
    above ∈ outline.ancestorsWithin origin steps node ↔
      ∃ links < steps, outline.throughElements.climb (links + 1) node = some above ∧
        ∀ fewer ≤ links, outline.throughElements.climb (fewer + 1) node ≠ some origin := by
  induction steps generalizing node with
  | zero => simp [ancestorsWithin]
  | succ steps ih =>
    unfold ancestorsWithin
    cases linked : outline.parentElement node with
    | none =>
      have ended : ∀ links, outline.throughElements.climb (links + 1) node = none := fun links => by
        rw [climb_succ]
        exact congrArg (Option.bind · _) linked
      simp [ended]
    | some parent =>
      have further : ∀ links, outline.throughElements.climb (links + 1) node =
          outline.throughElements.climb links parent := fun links => climb_succ_of_parent linked
      simp only [further]
      -- a step back to the origin ends the walk, and spoils every climb that begins with it
      by_cases back : parent = origin
      · rw [if_pos back]
        refine iff_of_false List.not_mem_nil ?_
        rintro ⟨links, _, _, before⟩
        exact before 0 (Nat.zero_le links) (congrArg some back)
      · rw [if_neg back, List.mem_cons, ih]
        constructor
        · rintro (rfl | ⟨links, lt, reaches, before⟩)
          · refine ⟨0, Nat.succ_pos steps, rfl, fun fewer le => ?_⟩
            rw [Nat.le_zero.mp le]
            exact fun returns => back (Option.some.inj returns)
          · refine ⟨links + 1, Nat.succ_lt_succ lt, reaches, fun fewer le => ?_⟩
            cases fewer with
            | zero => exact fun returns => back (Option.some.inj returns)
            | succ fewer => exact before fewer (Nat.le_of_succ_le_succ le)
        · rintro ⟨_ | links, lt, reaches, before⟩
          · exact .inl (Option.some.inj reaches).symm
          · refine .inr ⟨links, Nat.lt_of_succ_lt_succ lt, reaches, fun fewer le => ?_⟩
            exact before (fewer + 1) (Nat.succ_le_succ le)

/-- What the ancestors of a node are on every outline, whether or not its links form cycles. -/
theorem mem_ancestors_iff_climb :
    above ∈ outline.ancestors node ↔
      ∃ links < maxAncestorSteps, outline.throughElements.climb (links + 1) node = some above ∧
        ∀ fewer ≤ links, outline.throughElements.climb (fewer + 1) node ≠ some node :=
  mem_ancestorsWithin_iff_climb

/-- The parent of a node is an ancestor, unless the node is its own parent. -/
theorem mem_ancestors_of_parentElement (linked : outline.parentElement node = some above)
    (ne : above ≠ node) : above ∈ outline.ancestors node := by
  have reaches : outline.throughElements.climb 1 node = some above := (climb_one node).trans linked
  refine mem_ancestors_iff_climb.mpr ⟨0, by decide, reaches, fun fewer le => ?_⟩
  rw [Nat.le_zero.mp le, reaches]
  exact fun returns => ne (Option.some.inj returns)

/-- Where a chain ends in time, all of it is found. -/
theorem ChainEnds.mem_ancestors_iff (ends : outline.ChainEnds node) :
    above ∈ outline.ancestors node ↔ outline.throughElements.IsAncestor above node := by
  rw [mem_ancestors_iff_climb]
  constructor
  · rintro ⟨links, _, reaches, _⟩
    exact ⟨links, reaches⟩
  · rintro ⟨links, reaches⟩
    refine ⟨links, Nat.lt_of_not_le fun le => ?_, reaches, fun fewer _ returns => ?_⟩
    · rw [climb_eq_none_of_le ends (Nat.succ_le_succ le)] at reaches
      cases reaches
    · exact ends.not_isAncestor_self ⟨fewer, returns⟩

end ElementSearch.Outline
