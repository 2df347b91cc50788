import ElementSearch.Rule.Grammar
import Mathlib.Data.List.TakeWhile

/-!
# Writing rules and reading them back

A segment is read as a predicate if and only if it is the text of that predicate: `Predicate.parse_eq_ok_iff`. A
property holds no separator, so the first `=` of that text is where the property ends. A value may hold `=`, but with a
`;` in it the text of its predicate is more than one segment, and no segment holds a `;` again. So a rule is read back
from its text if and only if it has a predicate and none of its values holds a `;`, and rules that can be read back
differ in their texts: `Rule.encode_faithful`.
-/

namespace ElementSearch

/-- No piece of a split holds the item at which the list was split. -/
theorem not_mem_of_mem_splitOn {α : Type} [DecidableEq α] {separator : α} {items piece : List α}
    (member : piece ∈ items.splitOn separator) : separator ∉ piece := by
  induction items generalizing piece with
  | nil =>
    rw [List.splitOn_nil, List.mem_singleton] at member
    exact member ▸ List.not_mem_nil
  | cons item rest ih =>
    rw [List.splitOn_cons_eq_if_modifyHead] at member
    obtain ⟨first, others, pieces⟩ := List.exists_cons_of_ne_nil (List.splitOn_ne_nil separator rest)
    rw [pieces] at ih
    split at member
    · rcases List.mem_cons.mp member with rfl | behind
      · exact List.not_mem_nil
      · exact ih (pieces ▸ behind)
    · next differs =>
      rw [pieces, List.modifyHead_cons] at member
      rcases List.mem_cons.mp member with rfl | behind
      · have notItem : separator ≠ item := fun same => differs (beq_iff_eq.mpr same.symm)
        exact List.not_mem_cons_of_ne_of_not_mem notItem (ih List.mem_cons_self)
      · exact ih (List.mem_cons_of_mem first behind)

namespace Predicate

variable {segment property value : String} {predicate : Predicate}

/-- A predicate is written as its property, a separator and its value. -/
theorem toList_encode (predicate : Predicate) :
    predicate.encode.toList = predicate.property.toList ++ '=' :: predicate.value.toList := by
  simp [encode]

/-- A property holds none of the characters that separate. -/
theorem not_mem_property {separator : Char} (reserved : isReserved separator = true) :
    separator ∉ predicate.property.toList := by
  intro member
  rw [predicate.isProperty.2 separator member] at reserved
  cases reserved

/-- The text of a predicate holds a `;` only in its value. -/
theorem mem_toList_encode_iff :
    ';' ∈ predicate.encode.toList ↔ ';' ∈ predicate.value.toList := by
  have outside : ';' ∉ predicate.property.toList := not_mem_property rfl
  simp [toList_encode, outside]

/-- A segment without a separator is rejected. -/
theorem parse_of_not_mem (missing : '=' ∉ segment.toList) :
    parse segment = .error (.missingSeparator segment) := by
  have all : ∀ character ∈ segment.toList, (decide (character ≠ '=')) = true := by
    intro character member
    exact decide_eq_true fun same => missing (same ▸ member)
  rw [parse, List.dropWhile_eq_nil_iff.mpr all]

/-- A segment is split at its first `=`, and what comes before that has to be a property. -/
theorem parse_of_not_mem_property (first : '=' ∉ property.toList) :
    parse (property ++ "=" ++ value) =
      (make property value).mapError (.invalidPredicate (property ++ "=" ++ value)) := by
  have before : ∀ character ∈ property.toList, (decide (character ≠ '=')) = true := by
    intro character member
    exact decide_eq_true fun same => first (same ▸ member)
  have split : (property ++ "=" ++ value).toList = property.toList ++ '=' :: value.toList := by
    simp
  rw [parse, split, List.dropWhile_append_of_pos before, List.takeWhile_append_of_pos before]
  simp

/-- A segment is read as a predicate if and only if it is the text of the predicate. -/
theorem parse_eq_ok_iff : parse segment = .ok predicate ↔ segment = predicate.encode := by
  constructor
  · intro reads
    by_cases separated : '=' ∈ segment.toList
    · obtain ⟨before, behind, split, first⟩ := List.eq_append_cons_of_mem separated
      have parts : segment = String.ofList before ++ "=" ++ String.ofList behind :=
        String.toList_inj.mp (by simp [split])
      rw [parts, parse_of_not_mem_property (by simpa using first)] at reads
      cases made : make (String.ofList before) (String.ofList behind) with
      | error cause => simp [made, Except.mapError] at reads
      | ok known =>
        simp only [made, Except.mapError, Except.ok.injEq] at reads
        obtain ⟨isProperty, isValue⟩ := make_eq_ok_iff.mp (reads ▸ made)
        rw [parts, encode, isProperty, isValue]
    · rw [parse_of_not_mem separated] at reads
      cases reads
  · rintro rfl
    have made : make predicate.property predicate.value = .ok predicate :=
      make_eq_ok_iff.mpr ⟨rfl, rfl⟩
    rw [encode, parse_of_not_mem_property (not_mem_property rfl), made]
    rfl

end Predicate

namespace Rule

variable {text : String} {rule : Rule}

/-- Whether a rule has a text that can be read: it has a predicate, and no value holds the character that stands between
predicates. -/
def IsWritable (rule : Rule) : Prop :=
  rule.predicates ≠ [] ∧ ∀ predicate ∈ rule.predicates, ';' ∉ predicate.value.toList

instance (rule : Rule) : Decidable rule.IsWritable :=
  @instDecidableAnd _ _ inferInstance (List.decidableBAll _ _)

/-- The segments of the text of a writable rule are those of its predicates. -/
theorem segments_encode (writable : rule.IsWritable) :
    segments rule.encode = rule.predicates.map .ok := by
  obtain ⟨nonempty, plain⟩ := writable
  have pieces : rule.encode.toList.splitOn ';' =
      rule.predicates.map fun predicate => predicate.encode.toList := by
    rw [encode, String.toList_ofList]
    refine List.splitOn_intercalate ';' ?_ (mt List.map_eq_nil_iff.mp nonempty)
    intro piece member
    obtain ⟨predicate, isPredicate, rfl⟩ := List.mem_map.mp member
    exact fun holds => plain predicate isPredicate (Predicate.mem_toList_encode_iff.mp holds)
  rw [segments, pieces, List.map_map]
  refine List.map_congr_left fun predicate _ => ?_
  rw [Function.comp_apply, String.ofList_toList, Predicate.parse_eq_ok_iff]

/-- Every rule that is read can be written: its values are parts of segments. -/
theorem isWritable_of_parse? (found : parse? text = some rule) : rule.IsWritable := by
  unfold parse? at found
  split at found
  · cases found
  · next predicates nonempty =>
    cases found
    refine ⟨nonempty, fun predicate member => ?_⟩
    obtain ⟨segment, isSegment, read⟩ := List.mem_filterMap.mp member
    obtain ⟨piece, isPiece, rfl⟩ := List.mem_map.mp isSegment
    have parsed : Predicate.parse (String.ofList piece) = .ok predicate := by
      cases result : Predicate.parse (String.ofList piece) with
      | error cause => simp [result, Except.toOption] at read
      | ok known => simpa [result, Except.toOption] using read
    have isText := congrArg String.toList (Predicate.parse_eq_ok_iff.mp parsed)
    rw [String.toList_ofList] at isText
    rw [← Predicate.mem_toList_encode_iff, ← isText]
    exact not_mem_of_mem_splitOn isPiece

/-- A writable rule is read back from its text. -/
theorem parse?_encode (writable : rule.IsWritable) : parse? rule.encode = some rule := by
  have read : (segments rule.encode).filterMap Except.toOption = rule.predicates := by
    rw [segments_encode writable, List.filterMap_map]
    exact List.filterMap_some
  unfold parse?
  split
  · next none => exact absurd (read.symm.trans none) writable.1
  · next predicates _ =>
    rw [read]

/-- A rule is read back from its text, with all its predicates and in their order, if and only if it is writable. So
writable rules that differ have texts that differ. -/
theorem encode_faithful (rule : Rule) :
    (parse? rule.encode = some rule ↔ rule.IsWritable) ∧
      ∀ other : Rule, rule.IsWritable → other.IsWritable →
        rule.encode = other.encode → rule = other := by
  refine ⟨⟨isWritable_of_parse?, parse?_encode⟩, fun other writable otherWritable same => ?_⟩
  have read := parse?_encode writable
  rw [same, parse?_encode otherWritable] at read
  exact (Option.some.inj read).symm

section Writing

/-- A rule whose values hold a separator of their own, a wildcard sign, and nothing. -/
def intricate : Rule :=
  ⟨[⟨"src", "a=b", by decide⟩, ⟨"pcl", "~=", by decide⟩, ⟨"w", "", by decide⟩]⟩

/-- A rule that is written as two predicates, but has one. -/
def ambiguous : Rule :=
  ⟨[⟨"src", "a;tag=p", by decide⟩]⟩

/-- The intricate rule is read back from its text, and nothing else that can be read back has this text. The ambiguous
rule is not read back. -/
theorem encode_intricate :
    parse? "src=a=b;pcl=~=;w=" = some intricate ∧
      (∀ other : Rule, other.IsWritable → intricate.encode = other.encode → intricate = other) ∧
      parse? ambiguous.encode ≠ some ambiguous := by
  have writable : intricate.IsWritable := by decide
  obtain ⟨read, unique⟩ := encode_faithful intricate
  refine ⟨read.mpr writable, fun other => unique other writable, fun back => ?_⟩
  exact absurd ((encode_faithful ambiguous).1.mp back) (by decide)

end Writing

end Rule

end ElementSearch
