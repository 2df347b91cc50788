import ElementSearch.Data.Datum
import ElementSearch.RuleSet.Definition

/-!
# Reading rule sets

A rule set is read from a table with the entries `meta` and `rules`, or from any data of the same shape.
Every entry may be missing but the property and the value of a predicate. Data formats differ in what
they leave open: whether a record written as a list may be too long, and how a variant without content is
written.
-/

namespace ElementSearch

/-- What a data format decides about records and variants. -/
structure Dialect where
  /-- Whether a record written as a list may go on behind its last field. -/
  surplus : Bool
  /-- Whether a value stands for the content of a variant that has none. -/
  isUnit : Datum → Bool

namespace RuleSetDefinition

variable (dialect : Dialect)

/-- Reads a mode: its name, or a table with that name as its only key. -/
def mode? : Datum → Option Mode
  | .text name => Mode.named? name
  | .table [(name, content)] => if dialect.isUnit content then Mode.named? name else none
  | _ => none

/-- Reads a predicate. -/
def predicate? (datum : Datum) : Option PredicateDefinition := do
  let fields ← datum.record? dialect.surplus ["property", "value"]
  let property ← fields.required "property" Datum.text?
  let value ← fields.required "value" Datum.text?
  some ⟨property, value⟩

/-- Reads a rule. -/
def rule? (datum : Datum) : Option RuleDefinition := do
  let fields ← datum.record? dialect.surplus ["name", "rule", "predicates", "mode"]
  let name ← fields.withDefault "name" "" Datum.text?
  let text ← fields.withDefault "rule" none (Datum.optional? Datum.text?)
  let predicates ← fields.withDefault "predicates" [] fun items => do
    (← items.list?).mapM (predicate? dialect)
  let mode ← fields.withDefault "mode" Mode.first (mode? dialect)
  some ⟨name, text, predicates, mode⟩

/-- Reads what is said about the rule set as a whole. -/
def header? (datum : Datum) : Option RuleSetHeader := do
  let fields ← datum.record? dialect.surplus ["name", "description", "include_frames"]
  let name ← fields.withDefault "name" "" Datum.text?
  let description ← fields.withDefault "description" none (Datum.optional? Datum.text?)
  let includeFrames ← fields.withDefault "include_frames" false Datum.bool?
  some ⟨name, description, includeFrames⟩

/-- Reads a rule set. -/
def ofDatum? (datum : Datum) : Option RuleSetDefinition := do
  let fields ← datum.record? dialect.surplus ["meta", "rules"]
  let header ← fields.withDefault "meta" RuleSetHeader.plain (header? dialect)
  let rules ← fields.withDefault "rules" [] fun items => do
    (← items.list?).mapM (rule? dialect)
  some ⟨header, rules⟩

end RuleSetDefinition

end ElementSearch
