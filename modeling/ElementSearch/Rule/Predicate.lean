import ElementSearch.Text.Pattern

/-!
# Predicates

A predicate is one `property=value` test of a rule. Its property names what is tested and where: the
node itself, or with a leading `p` its parent, or with `pp` any element above it. Kind, scope and
wildcard follow from property and value, so a predicate stores only those two.
-/

namespace ElementSearch

/-- What a predicate tests, apart from where it looks. -/
inductive PredicateKind where
  | id
  /-- Membership in the blank-separated `class` attribute. -/
  | className
  | tag
  /-- The `src` of an element; its path only, for a value that starts with `/`. -/
  | source
  | width
  | height
  /-- Visibility, which is inherited from the elements above. -/
  | visibility
  /-- An unrecognised property. It matches nothing. -/
  | unknown
  deriving DecidableEq

/-- Where a predicate looks. -/
inductive Scope where
  | node
  | parent
  | ancestor
  deriving DecidableEq

/-- Reads what a property tests and where. Only ids, classes and tags can be looked for above the
node. -/
def PredicateKind.classify (property : String) : PredicateKind × Scope :=
  match property with
  | "id" => (.id, .node)
  | "pid" => (.id, .parent)
  | "ppid" => (.id, .ancestor)
  | "cl" => (.className, .node)
  | "pcl" => (.className, .parent)
  | "ppcl" => (.className, .ancestor)
  | "tag" => (.tag, .node)
  | "ptag" => (.tag, .parent)
  | "pptag" => (.tag, .ancestor)
  | "src" => (.source, .node)
  | "w" => (.width, .node)
  | "h" => (.height, .node)
  | "vis" => (.visibility, .node)
  | _ => (.unknown, .node)

/-- Whether hosts can look up elements by this kind. -/
def PredicateKind.isIndexable : PredicateKind → Bool
  | .id | .className | .tag => true
  | _ => false

/-- Why a predicate cannot be made. -/
inductive PredicateError where
  | emptyProperty
  /-- The property holds a character that separates predicates or their parts. -/
  | reservedCharacter (property : String) (found : Char)
  deriving DecidableEq

/-- The text of a predicate error. -/
def PredicateError.message : PredicateError → String
  | .emptyProperty => "invalid property passed to Identifier: property is empty"
  | .reservedCharacter property found =>
    "invalid property passed to Identifier: '" ++ property ++ "' contains '" ++
      String.singleton found ++ "'"

/-- The characters that separate a property from its value and predicates from one another. -/
def isReserved (character : Char) : Bool :=
  character == '=' || character == ';'

/-- A property is not empty and holds no reserved character, so that its end can be found again in the
text of a rule. -/
def IsProperty (property : String) : Prop :=
  property ≠ "" ∧ ∀ character ∈ property.toList, isReserved character = false

instance (property : String) : Decidable (IsProperty property) :=
  @instDecidableAnd _ _ inferInstance (List.decidableBAll _ _)

/-- One `property=value` test. -/
structure Predicate where
  property : String
  value : String
  isProperty : IsProperty property
  deriving DecidableEq

namespace Predicate

/-- The predicate with a property and a value, if the property is one. -/
def make (property value : String) : Except PredicateError Predicate :=
  if valid : IsProperty property then
    .ok ⟨property, value, valid⟩
  else
    match property.toList.find? isReserved with
    | some found => .error (.reservedCharacter property found)
    | none => .error .emptyProperty

/-- What the predicate tests. -/
def kind (predicate : Predicate) : PredicateKind :=
  (PredicateKind.classify predicate.property).1

/-- Where the predicate looks. -/
def scope (predicate : Predicate) : Scope :=
  (PredicateKind.classify predicate.property).2

/-- Whether the value asks for containment instead of equality. -/
def isWildcard (predicate : Predicate) : Bool :=
  Text.isWildcard predicate.value

/-- The text of a predicate. -/
def encode (predicate : Predicate) : String :=
  predicate.property ++ "=" ++ predicate.value

/-- Making a predicate succeeds exactly for the property and the value the predicate carries. -/
theorem make_eq_ok_iff {property value : String} {predicate : Predicate} :
    make property value = .ok predicate ↔
      predicate.property = property ∧ predicate.value = value := by
  constructor
  · intro made
    unfold make at made
    split at made
    · cases made
      exact ⟨rfl, rfl⟩
    · split at made <;> cases made
  · rintro ⟨rfl, rfl⟩
    simp [make, predicate.isProperty]

end Predicate

end ElementSearch
