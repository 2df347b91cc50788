import ElementSearch.Proofs.CommandLine.Reading
import ElementSearch.Proofs.RuleSet.Validity
import Mathlib.Data.List.Forall2

/-!
# Accepted rule sets compile

A rule that is given in one way gives a rule, with one predicate at least. So compiling a valid rule set succeeds, and
the compiled rules are those of the definition, in order: `IsValid.exists_compilesTo`. Since exactly the valid rule sets
are accepted, and what is loaded has been accepted, loading never fails for a rule that does not compile:
`validate_exact`.
-/

namespace ElementSearch

namespace RuleDefinition

variable {definition : RuleDefinition} {rule : Rule}

/-- No definition gives a rule without predicates. -/
theorem predicates_ne_nil (compiles : definition.compile = .ok rule) : rule.predicates ≠ [] := by
  unfold compile at compiles
  split at compiles
  · next text _ =>
    unfold Rule.parse Rule.parse? at compiles
    split at compiles
    · next parsed =>
      split at parsed
      · cases parsed
      · next someSegment =>
        cases parsed
        cases compiles
        exact someSegment
    · cases compiles
  · split at compiles
    · cases compiles
    · cases compiles
    · next someDefinition _ =>
      cases compiles
      exact someDefinition

/-- A rule that is given in one way is compiled. -/
theorem HasRule.exists_compile (hasRule : definition.HasRule) :
    ∃ rule, definition.compile = .ok rule := by
  rcases hasRule with ⟨text, isText, -, usable⟩ | ⟨noText, nonempty, properties⟩
  · exact (exists_compile_text_iff isText).mpr usable
  · exact (exists_compile_predicates_iff noText).mpr ⟨nonempty, properties⟩

/-- Whether a compiled rule is the one that a definition gives. -/
def Gives (definition : RuleDefinition) (compiled : CompiledRule) : Prop :=
  compiled.name = definition.name ∧ compiled.mode = definition.mode ∧
    definition.compile = .ok compiled.rule

/-- What a definition compiles to is what it gives. -/
theorem gives_of_compiled? {compiled : CompiledRule}
    (found : definition.compiled? = some compiled) : definition.Gives compiled := by
  unfold compiled? at found
  cases compiles : definition.compile with
  | error cause => simp [compiles, Except.toOption] at found
  | ok rule =>
    rw [compiles] at found
    cases found
    exact ⟨rfl, rfl, compiles⟩

end RuleDefinition

namespace RuleSetDefinition

variable {definition : RuleSetDefinition}

/-- Validation accepts exactly the valid definitions. -/
theorem validate_eq_ok_iff_isValid : definition.validate = .ok () ↔ definition.IsValid :=
  (validate_eq_ok_iff definition).trans issues_eq_nil_iff

/-- What has been loaded is valid. -/
theorem validate_of_load {text : String} (loaded : load text = .ok definition) :
    definition.validate = .ok () := by
  unfold load at loaded
  split at loaded
  · cases loaded
  · split at loaded
    · next valid =>
      cases loaded
      exact valid
    · cases loaded

/-- Where every rule compiles, each gives one compiled rule, in order. -/
theorem forall₂_gives {rules : List RuleDefinition}
    (compile : ∀ rule ∈ rules, ∃ compiled, rule.compile = .ok compiled) :
    List.Forall₂ RuleDefinition.Gives rules (rules.filterMap RuleDefinition.compiled?) := by
  induction rules with
  | nil => exact .nil
  | cons rule rest ih =>
    obtain ⟨compiled, compiles⟩ := compile rule List.mem_cons_self
    have found : rule.compiled? = some ⟨rule.name, compiled, rule.mode⟩ := by
      rw [RuleDefinition.compiled?, compiles]
      rfl
    rw [List.filterMap_cons_some found]
    exact .cons (RuleDefinition.gives_of_compiled? found)
      (ih fun other member => compile other (List.mem_cons_of_mem rule member))

/-- Whether a rule set is what compiling a definition gives: one rule for each rule of the definition, in order, and
each with a predicate. -/
structure CompilesTo (definition : RuleSetDefinition) (ruleSet : RuleSet) : Prop where
  compile_eq : definition.compile = .ok ruleSet
  header_eq : ruleSet.toRuleSetHeader = definition.toRuleSetHeader
  gives : List.Forall₂ RuleDefinition.Gives definition.rules ruleSet.rules
  predicates_ne_nil : ∀ compiled ∈ ruleSet.rules, compiled.rule.predicates ≠ []

/-- A valid rule set compiles. -/
theorem IsValid.exists_compilesTo (valid : definition.IsValid) :
    ∃ ruleSet, definition.CompilesTo ruleSet := by
  have compile := fun rule member => (valid.hasRule rule member).exists_compile
  have noIssue : definition.rules.filterMap RuleDefinition.compilationIssue? = [] := by
    refine List.filterMap_eq_nil_iff.mpr fun rule member => ?_
    obtain ⟨compiled, compiles⟩ := compile rule member
    rw [RuleDefinition.compilationIssue?, compiles]
  refine ⟨⟨definition.toRuleSetHeader, definition.rules.filterMap RuleDefinition.compiled?⟩,
    ?_, rfl, forall₂_gives compile, fun compiled member => ?_⟩
  · rw [RuleSetDefinition.compile, noIssue]
  · obtain ⟨rule, -, found⟩ := List.mem_filterMap.mp member
    exact RuleDefinition.predicates_ne_nil (RuleDefinition.gives_of_compiled? found).2.2

/-- A loaded rule set compiles, rule by rule. -/
theorem compile_of_load {text : String} (loaded : load text = .ok definition) :
    ∃ ruleSet, definition.compile = .ok ruleSet ∧
      ruleSet.toRuleSetHeader = definition.toRuleSetHeader ∧
      List.Forall₂ RuleDefinition.Gives definition.rules ruleSet.rules := by
  have valid := validate_eq_ok_iff_isValid.mp (validate_of_load loaded)
  obtain ⟨ruleSet, compiles⟩ := valid.exists_compilesTo
  exact ⟨ruleSet, compiles.compile_eq, compiles.header_eq, compiles.gives⟩

/-- Validation accepts exactly the valid rule sets, and these compile. So a rule set that has been read from a file is
compiled without an error. -/
theorem validate_exact (definition : RuleSetDefinition) :
    (definition.validate = .ok () ↔ definition.IsValid) ∧
      (definition.validate = .ok () → ∃ ruleSet, definition.CompilesTo ruleSet) ∧
      ∀ files path, loadFile files path = .ok definition →
        ∃ ruleSet, definition.CompilesTo ruleSet ∧ RuleSet.loadFile files path = .ok ruleSet := by
  have compiles : definition.validate = .ok () → ∃ ruleSet, definition.CompilesTo ruleSet :=
    fun accepted => (validate_eq_ok_iff_isValid.mp accepted).exists_compilesTo
  refine ⟨validate_eq_ok_iff_isValid, compiles, fun files path loaded => ?_⟩
  obtain ⟨text, -, read⟩ := loadFile_eq_ok_iff.mp loaded
  obtain ⟨ruleSet, isCompiled⟩ := compiles (validate_of_load read)
  refine ⟨ruleSet, isCompiled, ?_⟩
  have compiled : RuleSet.ofDefinition definition = .ok ruleSet := by
    unfold RuleSet.ofDefinition
    rw [isCompiled.compile_eq]
    rfl
  simp only [RuleSet.loadFile, loaded, compiled]
  rfl

/-- A rule set with a rule that is given by a text, and one that is given by predicates. -/
def mixed : RuleSetDefinition :=
  ⟨.plain, [⟨"links", some "junk;tag=a", [], .all⟩, ⟨" \n#", none, [⟨"src", "a;b"⟩], .roots⟩]⟩

/-- The mixed rule set is accepted, so it is valid and compiles. -/
theorem validate_mixed : mixed.IsValid ∧ ∃ ruleSet, mixed.CompilesTo ruleSet := by
  obtain ⟨accepts, compiles, -⟩ := validate_exact mixed
  have accepted : mixed.validate = .ok () := by decide
  exact ⟨accepts.mp accepted, compiles accepted⟩

end RuleSetDefinition

end ElementSearch
