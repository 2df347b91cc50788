import ElementSearch.Proofs.Search.Coverage

/-!
# Adding a predicate

A further predicate is one more condition, but it also proposes candidates of its own. So a search for the longer rule
may look where the search for the shorter one does not, and find matches that this one misses. Whatever predicate is
added, the search only becomes narrower if and only if the shorter rule misses nothing: `Rule.narrows_iff_isComplete`.
One predicate whose candidates cover its matches is enough for that.
-/

namespace ElementSearch

variable {Node : Type} [DecidableEq Node]

namespace Predicate

/-- The predicate that holds where a node is shown together with all elements above it, or where it is not. -/
def visibility (shown : Bool) : Predicate :=
  ⟨"vis", if shown then "true" else "false", by decide⟩

variable {host : Host Node}

/-- Every node has the visibility that the host sees. -/
theorem holds_visibility (node : Node) :
    (visibility (host.isVisible node)).holds host node = true := by
  have other : Text.sameIgnoringAsciiCase "false" "true" = false := by decide
  have kind : ∀ shown, (visibility shown).kind = .visibility := fun _ => rfl
  rw [holds, kind]
  cases shown : host.isVisible node <;>
    simp [hasVisibility, visibility, shown, other, Text.sameIgnoringAsciiCase_refl]

/-- Visibility is not looked up, so a search for it goes through the whole subtree. -/
theorem candidates_visibility (shown : Bool) (start : Node) :
    (visibility shown).candidates host start = [start] := by
  have kind : (visibility shown).kind = .visibility := rfl
  have noLookup : (visibility shown).hits? host start = none := by
    rw [hits?, kind]
    exact ite_self none
  rw [candidates, noLookup]

end Predicate

namespace Rule

/-- The rule with a further predicate. -/
def and (rule : Rule) (predicate : Predicate) : Rule :=
  ⟨rule.predicates ++ [predicate]⟩

/-- Whether a search for a rule misses no match in the searched subtree. -/
def IsComplete (host : Host Node) (rule : Rule) (scope : Node) : Prop :=
  ∀ start, start? host scope = some start → ∀ node ∈ host.subtree start, rule.holds host node →
    node ∈ rule.locateEvery host scope

/-- Whether a search for a rule with a further predicate returns nothing that a search for the rule does not,
whichever predicate it is. -/
def Narrows (host : Host Node) (rule : Rule) (scope : Node) : Prop :=
  ∀ predicate, (rule.and predicate).locateEvery host scope ⊆ rule.locateEvery host scope

variable {host : Host Node} {rule : Rule}

/-- A rule with one more predicate holds where the rule and the predicate hold. -/
theorem holds_and (predicate : Predicate) (node : Node) :
    (rule.and predicate).holds host node = (rule.holds host node && predicate.holds host node) := by
  simp [and, holds]

variable (forest : host.IsShallowForest) (leaves : host.HasLeafTexts) {scope : Node}
include forest leaves

/-- A rule is complete as soon as one of its predicates covers the start. -/
theorem isComplete_of_covers
    (elements : ∀ (predicate : Predicate) (start : Node), predicate.LooksUpElements host start)
    {predicate : Predicate} (isPredicate : predicate ∈ rule.predicates)
    (covers : ∀ start, start? host scope = some start → predicate.Covers host start) :
    rule.IsComplete host scope := by
  intro start starts node inside holds
  exact (mem_locate_every_iff forest leaves starts (fun other _ => elements other start) isPredicate
    (covers start starts)).mpr ⟨inside, holds⟩

/-- A further predicate never makes a search find more if and only if the search misses nothing. -/
theorem narrows_iff_isComplete
    (elements : ∀ (predicate : Predicate) (start : Node), predicate.LooksUpElements host start) :
    rule.Narrows host scope ↔ rule.IsComplete host scope := by
  constructor
  · intro narrows start starts node inside holds
    -- a predicate that holds at the node and proposes the whole subtree brings the node back
    let further := Predicate.visibility (host.isVisible node)
    refine narrows further ((mem_locate_every_iff_exists_candidate forest leaves starts
      fun other _ => elements other start).mpr ⟨inside, ?_, further, ?_, start, ?_, ?_⟩)
    · rw [holds_and, holds, Predicate.holds_visibility]
      rfl
    · exact List.mem_append_right _ (List.mem_singleton_self further)
    · rw [Predicate.candidates_visibility]
      exact List.mem_singleton_self start
    · exact forest.encloses_of_mem_subtree inside
  · intro complete predicate node member
    cases starts : start? host scope with
    | none => simp [locateEvery, mem_locate_iff, roots, starts] at member
    | some start =>
      obtain ⟨inside, holds, _⟩ := (mem_locate_every_iff_exists_candidate forest leaves starts
        fun other _ => elements other start).mp member
      rw [holds_and, Bool.and_eq_true] at holds
      exact complete start starts node inside holds.1

end Rule

end ElementSearch
