import ElementSearch.Proofs.Search.Likeness
import Mathlib.Data.List.Perm.Basic

/-!
# The order of predicates

Rules with the same predicates, in whatever order and however often each of them occurs, hold at the same nodes. Their
candidates come in different orders to a reducer that replaces what it has kept in place, but what it keeps is settled
by which nodes there are. So the roots of both rules are the same but for their order, and so are their matches:
`Rule.HasSamePredicates.findsSame`. The order in which matches are returned may differ.
-/

namespace ElementSearch

variable {Node : Type} [DecidableEq Node]

namespace Outline

variable {outline : Outline Node} {nodes others : List Node}

omit [DecidableEq Node] in
/-- Nodes that lie apart differ. -/
theorem nodup_of_pairwise_apart (apart : nodes.Pairwise outline.Apart) : nodes.Nodup := by
  refine apart.imp ?_
  rintro first _ separate rfl
  exact separate.1 (.refl first)

/-- The outermost nodes of a list are settled by which nodes it has. -/
theorem outermost_perm (shallow : outline.IsShallow)
    (same : ∀ node, node ∈ others ↔ node ∈ nodes) :
    (outline.outermost others).Perm (outline.outermost nodes) := by
  have nodup := fun list => nodup_of_pairwise_apart (pairwise_outermost shallow list)
  refine (List.perm_ext_iff_of_nodup (nodup others) (nodup nodes)).mpr fun node => ?_
  simp only [mem_outermost_iff shallow, same]

end Outline

namespace Rule

/-- Whether two rules have the same predicates, in whatever order and however often. -/
def HasSamePredicates (rule other : Rule) : Prop :=
  ∀ predicate, predicate ∈ other.predicates ↔ predicate ∈ rule.predicates

/-- Whether two rules hold at the same nodes of a host, and their searches in a scope start from the same nodes and
return the same nodes. -/
structure FindsSame (host : Host Node) (scope : Node) (rule other : Rule) : Prop where
  holds_eq : ∀ node, other.holds host node = rule.holds host node
  roots : (other.roots host scope).Perm (rule.roots host scope)
  locateOutermost : (other.locateOutermost host scope).Perm (rule.locateOutermost host scope)
  locateEvery : (other.locateEvery host scope).Perm (rule.locateEvery host scope)

namespace HasSamePredicates

variable {host : Host Node} {rule other : Rule}

variable (same : rule.HasSamePredicates other)
include same

/-- Rules with the same predicates hold of the same nodes. -/
theorem holds_eq (host : Host Node) : other.holds host = rule.holds host := by
  funext node
  rw [Bool.eq_iff_iff, holds, holds, List.all_eq_true, List.all_eq_true]
  exact forall_congr' fun predicate => imp_congr_left (same predicate)

variable (shallow : host.IsShallow)
include shallow

/-- Rules with the same predicates have the same roots up to order. -/
theorem roots_perm (scope : Node) : (other.roots host scope).Perm (rule.roots host scope) := by
  unfold roots
  cases start? host scope with
  | none => exact .nil
  | some start =>
    refine Outline.outermost_perm shallow fun node => ?_
    simp only [mem_distinct, List.mem_flatMap, same _]

/-- Rules with the same predicates find the same nodes up to order. -/
theorem locate_perm (traversal : Traversal) (scope : Node) :
    (other.locate host traversal scope).Perm (rule.locate host traversal scope) := by
  refine (List.perm_ext_iff_of_nodup (nodup_locate traversal scope)
    (nodup_locate traversal scope)).mpr fun node => ?_
  have collect : other.collect host traversal = rule.collect host traversal :=
    funext fun root => (Outline.SharesLinksOn.refl host.toOutline).collectWithin
      (fun _ => congrFun (same.holds_eq host) _) traversal (host.size + 1) trivial
  rw [mem_locate_iff, mem_locate_iff, collect]
  refine exists_congr fun root => and_congr_left fun _ => ?_
  exact (same.roots_perm shallow scope).mem_iff

/-- Rules with the same predicates find the same. -/
theorem findsSame (scope : Node) : rule.FindsSame host scope other where
  holds_eq node := congrFun (same.holds_eq host) node
  roots := same.roots_perm shallow scope
  locateOutermost := same.locate_perm shallow .outermost scope
  locateEvery := same.locate_perm shallow .every scope

end HasSamePredicates

end Rule

end ElementSearch
