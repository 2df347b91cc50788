import ElementSearch.Proofs.Rule.Grammar
import ElementSearch.RuleSet.Validation

/-!
# Which rule sets are valid

Validation goes through the rules of a rule set with the names that it has met, and passes over the content of a rule of
which it has found that it is given in both ways or in none. Nevertheless it finds nothing wrong in exactly the rule
sets that have rules, each with a name that is not blank and no other rule has, and with either a text or predicates
that make a rule: `RuleSetDefinition.issues_eq_nil_iff`. The induction is on the rules that are left, beside those that
were met.
-/

namespace ElementSearch

open Text

namespace RuleDefinition

variable {definition : RuleDefinition} {earlier : List RuleDefinition}

/-- Whether a rule has a name with a character that is not blank. -/
def IsNamed (definition : RuleDefinition) : Prop :=
  ∃ character ∈ definition.name.toList, isBlank character = false

/-- Whether a rule is given in one of two ways: by a text with a usable piece, or by predicates, all of them with
properties. -/
def HasRule (definition : RuleDefinition) : Prop :=
  (∃ text, definition.text = some text ∧ definition.predicates = [] ∧
      ∃ segment ∈ Rule.pieces text, Predicate.IsUsable segment) ∨
    definition.text = none ∧ definition.predicates ≠ [] ∧
      ∀ predicate ∈ definition.predicates, IsProperty predicate.property

/-- The predicates of a definition can be made if and only if each has a property. -/
theorem exists_compilePredicates_iff {predicates : List PredicateDefinition} :
    (∃ compiled, compilePredicates predicates = .ok compiled) ↔
      ∀ predicate ∈ predicates, IsProperty predicate.property := by
  induction predicates with
  | nil => simp [compilePredicates]
  | cons first rest ih =>
    rw [compilePredicates, List.forall_mem_cons, ← ih]
    cases made : Predicate.make first.property first.value with
    | ok predicate =>
      have valid : IsProperty first.property :=
        (Predicate.make_eq_ok_iff.mp made).1 ▸ predicate.isProperty
      cases compilePredicates rest <;> simp [Except.map, valid]
    | error cause =>
      have invalid : ¬ IsProperty first.property := by
        intro valid
        have makes : Predicate.make first.property first.value = .ok ⟨_, _, valid⟩ :=
          Predicate.make_eq_ok_iff.mpr ⟨rfl, rfl⟩
        cases made.symm.trans makes
      simp [invalid]

/-- No predicates are compiled if and only if there are none. -/
theorem compilePredicates_eq_ok_nil_iff {predicates : List PredicateDefinition} :
    compilePredicates predicates = .ok [] ↔ predicates = [] := by
  cases predicates with
  | nil => simp [compilePredicates]
  | cons first rest =>
    rw [compilePredicates]
    cases Predicate.make first.property first.value with
    | error cause => simp
    | ok predicate => cases compilePredicates rest <;> simp [Except.map]

/-- A text makes a rule if a piece of it is usable. -/
theorem exists_compile_text_iff {text : String} (isText : definition.text = some text) :
    (∃ rule, definition.compile = .ok rule) ↔
      ∃ segment ∈ Rule.pieces text, Predicate.IsUsable segment := by
  rw [← Rule.isSome_parse?_iff]
  unfold compile Rule.parse
  simp only [isText]
  cases Rule.parse? text <;> simp [Except.mapError]

/-- Predicates make a rule if there are any and each has a property. -/
theorem exists_compile_predicates_iff (noText : definition.text = none) :
    (∃ rule, definition.compile = .ok rule) ↔
      definition.predicates ≠ [] ∧
        ∀ predicate ∈ definition.predicates, IsProperty predicate.property := by
  rw [← exists_compilePredicates_iff, Ne, ← compilePredicates_eq_ok_nil_iff]
  unfold compile
  rw [noText]
  rcases compilePredicates definition.predicates with cause | (_ | ⟨predicate, others⟩) <;> simp

/-- A rule is compiled only if it is given in one way. -/
theorem contentIssues_eq_nil_iff_of_given (given : definition.text = none ↔ definition.predicates ≠ []) :
    definition.contentIssues = [] ↔ ∃ rule, definition.compile = .ok rule := by
  unfold contentIssues
  split
  · next noText noPredicates => exact absurd noPredicates (given.mp noText)
  · next isText arePredicates => simp [isText, arePredicates] at given
  · cases definition.compile <;> simp

/-- Nothing is wrong with the content of a rule if and only if it is given in one of two ways. -/
theorem contentIssues_eq_nil_iff : definition.contentIssues = [] ↔ definition.HasRule := by
  unfold HasRule
  cases isText : definition.text with
  | none =>
    by_cases empty : definition.predicates = []
    · simp [contentIssues, isText, empty]
    · rw [contentIssues_eq_nil_iff_of_given (by simp [isText, empty]),
        exists_compile_predicates_iff isText]
      simp
  | some text =>
    by_cases empty : definition.predicates = []
    · rw [contentIssues_eq_nil_iff_of_given (by simp [isText, empty]),
        exists_compile_text_iff isText]
      simp [empty]
    · obtain ⟨first, rest, isCons⟩ := List.exists_cons_of_ne_nil empty
      simp [contentIssues, isText, isCons]

/-- A definition is named when its name is not blank throughout. -/
theorem isAllBlank_eq_false_iff : isAllBlank definition.name = false ↔ definition.IsNamed := by
  simp [isAllBlank, IsNamed]

/-- The name a definition is reported under is its own, where it has one. -/
theorem givenName?_eq_some_iff {name : String} :
    definition.givenName? = some name ↔ definition.IsNamed ∧ definition.name = name := by
  rw [← isAllBlank_eq_false_iff, givenName?]
  split <;> simp_all

/-- Nothing is wrong with the name of a rule if and only if it is not blank and no rule before has it. -/
theorem nameIssues_eq_nil_iff :
    definition.nameIssues earlier = [] ↔
      definition.IsNamed ∧ ∀ other ∈ earlier, other.name ≠ definition.name := by
  unfold nameIssues
  split
  · next unnamed =>
    simp [← isAllBlank_eq_false_iff, (by simpa [givenName?] using unnamed : isAllBlank definition.name)]
  · next name named =>
    obtain ⟨isNamed, rfl⟩ := givenName?_eq_some_iff.mp named
    have met : definition.name ∈ earlier.filterMap givenName? ↔
        ∃ other ∈ earlier, other.name = definition.name := by
      simp only [List.mem_filterMap, givenName?_eq_some_iff]
      refine exists_congr fun other => and_congr_right fun _ => and_iff_right_of_imp fun same => ?_
      rwa [IsNamed, same]
    rw [ite_eq_right_iff, met]
    simp [isNamed]

end RuleDefinition

namespace RuleSetDefinition

/-- Nothing is wrong with rules behind other ones if and only if nothing is wrong with any of them, and their names
differ from each other and from those before. -/
theorem ruleIssues_eq_nil_iff {earlier rules : List RuleDefinition} :
    ruleIssues earlier rules = [] ↔
      (∀ rule ∈ rules, rule.IsNamed ∧ rule.HasRule) ∧ (rules.map RuleDefinition.name).Nodup ∧
        ∀ other ∈ earlier, ∀ rule ∈ rules, other.name ≠ rule.name := by
  induction rules generalizing earlier with
  | nil => simp [ruleIssues]
  | cons first rest ih =>
    rw [ruleIssues, List.append_eq_nil_iff, List.append_eq_nil_iff, ih,
      RuleDefinition.nameIssues_eq_nil_iff, RuleDefinition.contentIssues_eq_nil_iff]
    have metBefore : (∀ other ∈ earlier ++ [first], ∀ rule ∈ rest, other.name ≠ rule.name) ↔
        (∀ other ∈ earlier, ∀ rule ∈ rest, other.name ≠ rule.name) ∧
          first.name ∉ rest.map RuleDefinition.name := by
      rw [List.forall_mem_append, List.forall_mem_singleton, List.mem_map]
      simp only [not_exists, not_and, ne_comm, Ne]
    rw [metBefore, List.forall_mem_cons, List.map_cons, List.nodup_cons]
    simp only [List.forall_mem_cons, forall_and]
    tauto

/-- Whether a rule set has rules, which have names that differ and are each given in one way. -/
structure IsValid (definition : RuleSetDefinition) : Prop where
  rules_ne_nil : definition.rules ≠ []
  isNamed : ∀ rule ∈ definition.rules, rule.IsNamed
  nodup_names : (definition.rules.map RuleDefinition.name).Nodup
  hasRule : ∀ rule ∈ definition.rules, rule.HasRule

/-- Nothing is wrong with exactly the valid rule sets. -/
theorem issues_eq_nil_iff {definition : RuleSetDefinition} :
    definition.issues = [] ↔ definition.IsValid := by
  have someRules : (if definition.rules = [] then [Issue.noRules] else []) = [] ↔
      definition.rules ≠ [] := by
    simp
  rw [issues, List.append_eq_nil_iff, ruleIssues_eq_nil_iff, someRules]
  constructor
  · rintro ⟨nonempty, fine, nodup, -⟩
    exact ⟨nonempty, fun rule member => (fine rule member).1, nodup,
      fun rule member => (fine rule member).2⟩
  · intro valid
    refine ⟨valid.rules_ne_nil, fun rule member => ?_, valid.nodup_names, by simp⟩
    exact ⟨valid.isNamed rule member, valid.hasRule rule member⟩

end RuleSetDefinition

end ElementSearch
