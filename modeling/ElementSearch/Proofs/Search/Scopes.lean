import ElementSearch.Proofs.Tree.ElementChains
import ElementSearch.Rule.Holds

/-!
# The three scopes of a predicate

Ids, classes and tags can be tested at a node, at its parent and at every element above it. On every host, even one
whose parents form cycles, what holds at the parent holds above; where the chain of elements above a node ends in time,
the scope above asks for a match anywhere on it, which is a match at the parent of the node or of one of these elements
(`scopes_nest`). The test itself is the same in every scope and may use whatever a host answers.
-/

namespace ElementSearch

/-- The properties that can be tested above a node. -/
inductive BaseProperty where
  | id
  | className
  | tag
  deriving DecidableEq

/-- The text of a property that is tested at the node itself. -/
def BaseProperty.text : BaseProperty → String
  | .id => "id"
  | .className => "cl"
  | .tag => "tag"

/-- What stands in front of a property to say where it is tested. -/
def Scope.mark : Scope → String
  | .node => ""
  | .parent => "p"
  | .ancestor => "pp"

/-- The mark of a scope and a base property together make a property. -/
theorem isProperty_mark_append (scope : Scope) (base : BaseProperty) :
    IsProperty (scope.mark ++ base.text) := by
  cases scope <;> cases base <;> decide

namespace Predicate

/-- The predicate that tests a property for a value in a scope. -/
def inScope (scope : Scope) (base : BaseProperty) (value : String) : Predicate :=
  ⟨scope.mark ++ base.text, value, isProperty_mark_append scope base⟩

variable {Node : Type} {host : Host Node} {base : BaseProperty} {value : String} {node : Node}

/-- The scope of a predicate is read back from the mark of its property. -/
theorem scope_inScope (scope : Scope) : (inScope scope base value).scope = scope := by
  cases scope <;> cases base <;> rfl

/-- The test of a predicate does not depend on where it looks. -/
theorem passes_inScope (scope : Scope) (node : Node) :
    (inScope scope base value).passes host node = (inScope .node base value).passes host node := by
  cases scope <;> cases base <;> rfl

variable [DecidableEq Node]

/-- A property predicate has no condition besides that it passes in its scope. -/
theorem holds_inScope (scope : Scope) :
    (inScope scope base value).holds host node =
      (inScope scope base value).passesInScope host node := by
  cases scope <;> cases base <;> rfl

/-- At the node scope, only the node itself is looked at. -/
theorem holds_at_node :
    (inScope .node base value).holds host node = (inScope .node base value).passes host node := by
  rw [holds_inScope, passesInScope, scope_inScope]

/-- With the parent as scope, a node counts that is not its own parent. -/
theorem holds_at_parent_iff :
    (inScope .parent base value).holds host node ↔
      ∃ parent, host.parentElement node = some parent ∧ parent ≠ node ∧
        (inScope .node base value).holds host parent := by
  rw [holds_inScope, passesInScope, scope_inScope]
  simp only [Option.any_eq_true, Bool.and_eq_true, decide_eq_true_eq, passes_inScope .parent,
    holds_at_node]

/-- At the ancestor scope, a predicate holds where it holds of some ancestor at the node scope. -/
theorem holds_above_iff :
    (inScope .ancestor base value).holds host node ↔
      ∃ above ∈ host.ancestors node, (inScope .node base value).holds host above := by
  rw [holds_inScope, passesInScope, scope_inScope]
  simp only [List.any_eq_true, passes_inScope .ancestor, holds_at_node]

/-- A test that holds at each node where another one holds does so in every scope. -/
theorem holds_inScope_of_imp {other : String}
    (imp : ∀ node, (inScope .node base value).holds host node →
      (inScope .node base other).holds host node)
    (scope : Scope) (holds : (inScope scope base value).holds host node) :
    (inScope scope base other).holds host node := by
  cases scope with
  | node => exact imp node holds
  | parent =>
    obtain ⟨parent, linked, ne, holdsThere⟩ := holds_at_parent_iff.mp holds
    exact holds_at_parent_iff.mpr ⟨parent, linked, ne, imp parent holdsThere⟩
  | ancestor =>
    obtain ⟨above, member, holdsThere⟩ := holds_above_iff.mp holds
    exact holds_above_iff.mpr ⟨above, member, imp above holdsThere⟩

/-- How the scopes of a test for a value are related at a node. -/
structure ScopesNest (host : Host Node) (base : BaseProperty) (value : String) (node : Node) : Prop where
  above_of_parent : (inScope .parent base value).holds host node →
    (inScope .ancestor base value).holds host node
  above_iff : host.ChainEnds node →
    ((inScope .ancestor base value).holds host node ↔
      ∃ above, host.throughElements.IsAncestor above node ∧
        (inScope .node base value).holds host above)
  above_iff_parent : host.ChainEnds node →
    ((inScope .ancestor base value).holds host node ↔
      ∃ lower, host.throughElements.Encloses lower node ∧
        (inScope .parent base value).holds host lower)

/-- On every host the scope above a node is at least as wide as its parent, and it is all of the chain of elements where
this chain ends in time. -/
theorem scopes_nest (host : Host Node) (base : BaseProperty) (value : String) (node : Node) :
    ScopesNest host base value node := by
  have above_iff : host.ChainEnds node →
      ((inScope .ancestor base value).holds host node ↔
        ∃ above, host.throughElements.IsAncestor above node ∧
          (inScope .node base value).holds host above) := by
    intro ends
    simp only [holds_above_iff, ends.mem_ancestors_iff]
  refine ⟨fun holds => ?_, above_iff, fun ends => ?_⟩
  · obtain ⟨parent, linked, ne, holdsThere⟩ := holds_at_parent_iff.mp holds
    exact holds_above_iff.mpr ⟨parent, Outline.mem_ancestors_of_parentElement linked ne, holdsThere⟩
  · rw [above_iff ends]
    constructor
    · rintro ⟨above, ancestor, holds⟩
      obtain ⟨lower, linked, encloses⟩ := Outline.isAncestor_iff_child.mp ancestor
      refine ⟨lower, encloses, holds_at_parent_iff.mpr ⟨above, linked, ?_, holds⟩⟩
      -- a node that is its own parent would keep the chain below it from ending
      rintro rfl
      exact (ends.of_encloses encloses).not_isAncestor_self (Outline.isAncestor_of_parent linked)
    · rintro ⟨lower, encloses, holds⟩
      obtain ⟨above, linked, _, holdsThere⟩ := holds_at_parent_iff.mp holds
      exact ⟨above, Outline.isAncestor_iff_child.mpr ⟨lower, linked, encloses⟩, holdsThere⟩

section Ring

/-- Five elements: a list with an item and a picture in it, and two parts that are each the parent of the other. -/
def ringed : Host (Fin 5) where
  kind _ := .element
  parent node := [none, some 0, some 1, some 4, some 3][node]
  children _ := []
  tagName node := ["ul", "li", "img", "div", "div"][node]
  attributeValue _ _ := none
  size := 5

/-- Within the ring the parent has the tag and so has an element above. The chain above the picture ends with the list,
which is the parent of the item. -/
theorem scopes_nest_ringed :
    (inScope .ancestor .tag "DIV").holds ringed 3 ∧ ringed.ChainEnds 2 ∧
      ∃ lower, ringed.throughElements.Encloses lower 2 ∧
        (inScope .parent .tag "UL").holds ringed lower := by
  have inRing : (inScope .parent .tag "DIV").holds ringed 3 := by decide
  have ends : ringed.ChainEnds 2 := by
    unfold Outline.ChainEnds
    decide
  have above : (inScope .ancestor .tag "UL").holds ringed 2 := by decide
  exact ⟨(scopes_nest ringed .tag "DIV" 3).above_of_parent inRing, ends,
    ((scopes_nest ringed .tag "UL" 2).above_iff_parent ends).mp above⟩

end Ring

end Predicate

end ElementSearch
