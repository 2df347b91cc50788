import ElementSearch.Proofs.Rule.RoundTrip
import Mathlib.Data.List.Forall2

/-!
# Which texts are rules

The text of a rule is cut at every `;`. Of the segments those are predicates that have something before their first `=`;
the other ones have no `=`, or start with it. A segment holds no `;`, and what stands before its first `=` holds no `=`,
so no segment is refused for a character in its property: `Predicate.answers_parse`. A rule that is read has the
predicates that its usable segments write, in order, its text joins these segments again, and is read as the same rule:
`Rule.parse?_exact`.
-/

namespace ElementSearch

namespace Predicate

variable {segment property value : String} {predicate : Predicate}

/-- Whether the first `=` of a segment stands between a property and a value. -/
def Separates (segment property value : String) : Prop :=
  segment = property ++ "=" ++ value ∧ '=' ∉ property.toList

/-- Whether a segment has something before its first `=`. -/
def IsUsable (segment : String) : Prop :=
  ∃ property value, Separates segment property value ∧ property ≠ ""

/-- What a segment can be read as: the predicate that it writes, or an error that says what it lacks. -/
inductive Answers (segment : String) : Except SegmentError Predicate → Prop where
  | written {predicate : Predicate}
      (separates : Separates segment predicate.property predicate.value) :
      Answers segment (.ok predicate)
  | withoutSeparator (missing : '=' ∉ segment.toList) :
      Answers segment (.error (.missingSeparator segment))
  | withoutProperty {value : String} (separates : Separates segment "" value) :
      Answers segment (.error (.invalidPredicate segment .emptyProperty))

/-- The text of a predicate is separated into its property and its value. -/
theorem separates_encode (predicate : Predicate) :
    Separates predicate.encode predicate.property predicate.value :=
  ⟨rfl, not_mem_property rfl⟩

/-- A separated segment is its property, one separator and its value. -/
theorem Separates.toList_eq (separates : Separates segment property value) :
    segment.toList = property.toList ++ '=' :: value.toList := by
  rw [separates.1]
  simp

/-- A segment with a `=` in it has a first one. -/
theorem exists_separates (separated : '=' ∈ segment.toList) :
    ∃ property value, Separates segment property value := by
  obtain ⟨before, behind, split, first⟩ := List.eq_append_cons_of_mem separated
  refine ⟨String.ofList before, String.ofList behind, ?_, by simpa using first⟩
  exact String.toList_inj.mp (by simp [split])

/-- A segment is usable if it has a `=` that it does not start with. -/
theorem isUsable_iff :
    IsUsable segment ↔ '=' ∈ segment.toList ∧ segment.toList.head? ≠ some '=' := by
  constructor
  · rintro ⟨property, value, separates, nonempty⟩
    obtain ⟨first, rest, isFirst⟩ :=
      List.exists_cons_of_ne_nil (mt String.toList_eq_nil_iff.mp nonempty)
    have differs : first ≠ '=' := by
      rintro rfl
      exact separates.2 (isFirst ▸ List.mem_cons_self)
    rw [separates.toList_eq, isFirst]
    simp [differs]
  · rintro ⟨separated, start⟩
    obtain ⟨property, value, separates⟩ := exists_separates separated
    refine ⟨property, value, separates, ?_⟩
    rintro rfl
    simp [separates.toList_eq] at start

instance (segment : String) : Decidable (IsUsable segment) :=
  decidable_of_iff _ isUsable_iff.symm

/-- The text of a predicate is usable. -/
theorem isUsable_encode (predicate : Predicate) : IsUsable predicate.encode :=
  ⟨_, _, separates_encode predicate, predicate.isProperty.1⟩

section Reading

variable (plain : ';' ∉ segment.toList)
include plain

/-- In a segment without `;`, whatever stands before the first `=` is a property, unless it is empty. -/
theorem Separates.isProperty (separates : Separates segment property value)
    (nonempty : property ≠ "") : IsProperty property := by
  refine ⟨nonempty, fun character member => ?_⟩
  have notEquals : character ≠ '=' := fun same => separates.2 (same ▸ member)
  have notSemicolon : character ≠ ';' := by
    rintro rfl
    exact plain (separates.toList_eq ▸ List.mem_append_left _ member)
  simp [isReserved, notEquals, notSemicolon]

/-- A usable segment is the text of a predicate. -/
theorem exists_encode_eq_iff : (∃ predicate : Predicate, predicate.encode = segment) ↔
    IsUsable segment := by
  constructor
  · rintro ⟨predicate, rfl⟩
    exact isUsable_encode predicate
  · rintro ⟨property, value, separates, nonempty⟩
    exact ⟨⟨property, value, separates.isProperty plain nonempty⟩, separates.1.symm⟩

/-- The usable segments are those that are read. -/
theorem exists_parse_eq_ok_iff : (∃ predicate, parse segment = .ok predicate) ↔ IsUsable segment := by
  rw [← exists_encode_eq_iff plain]
  exact exists_congr fun predicate => parse_eq_ok_iff.trans eq_comm

/-- A segment without `;` is read, or it has no `=`, or it starts with it. -/
theorem answers_parse : Answers segment (parse segment) := by
  by_cases separated : '=' ∈ segment.toList
  · obtain ⟨property, value, separates⟩ := exists_separates separated
    by_cases empty : property = ""
    · subst empty
      have refused : parse segment = .error (.invalidPredicate segment .emptyProperty) := by
        rw [separates.1, parse_of_not_mem_property separates.2]
        rfl
      rw [refused]
      exact .withoutProperty separates
    · obtain ⟨predicate, reads⟩ :=
        (exists_parse_eq_ok_iff plain).mpr ⟨property, value, separates, empty⟩
      rw [reads, parse_eq_ok_iff.mp reads]
      exact .written (separates_encode predicate)
  · rw [parse_of_not_mem separated]
    exact .withoutSeparator separated

end Reading

end Predicate

namespace Rule

open Predicate

variable {text : String} {rule : Rule}

/-- The pieces of a text between its `;`. -/
def pieces (text : String) : List String :=
  (text.toList.splitOn ';').map String.ofList

/-- The pieces of a text that have something before their first `=`. -/
def usablePieces (text : String) : List String :=
  (pieces text).filter fun segment => IsUsable segment

/-- Each segment is parsed from one piece of the text. -/
theorem segments_eq (text : String) : segments text = (pieces text).map Predicate.parse := by
  rw [segments, pieces, List.map_map]
  rfl

/-- Nothing is lost between the pieces. -/
theorem intercalate_pieces (text : String) : ";".intercalate (pieces text) = text := by
  have inside : (pieces text).map String.toList = text.toList.splitOn ';' := by
    rw [pieces, List.map_map]
    exact List.map_id'' (fun _ => String.toList_ofList) _
  rw [← String.toList_inj, String.toList_intercalate, inside]
  exact List.intercalate_splitOn ';'

/-- No piece holds the character that separates pieces. -/
theorem not_mem_of_mem_pieces : ∀ segment ∈ pieces text, ';' ∉ segment.toList := by
  intro segment member
  obtain ⟨piece, isPiece, rfl⟩ := List.mem_map.mp member
  rw [String.toList_ofList]
  exact not_mem_of_mem_splitOn isPiece

/-- Each piece is answered by its own segment, in order. -/
theorem forall₂_answers (text : String) :
    List.Forall₂ Answers (pieces text) (segments text) := by
  rw [segments_eq, List.forall₂_map_right_iff, List.forall₂_same]
  exact fun segment member => answers_parse (not_mem_of_mem_pieces segment member)

/-- What is read of segments without `;` is written by the usable ones among them. -/
theorem map_encode_filterMap_parse {segments : List String}
    (plain : ∀ segment ∈ segments, ';' ∉ segment.toList) :
    (segments.filterMap (Except.toOption ∘ Predicate.parse)).map Predicate.encode =
      segments.filter (IsUsable ·) := by
  induction segments with
  | nil => rfl
  | cons segment rest ih =>
    obtain ⟨plainHere, plainBehind⟩ := List.forall_mem_cons.mp plain
    rw [List.filterMap_cons, List.filter_cons, ← ih plainBehind, Function.comp_apply]
    cases reads : Predicate.parse segment with
    | ok predicate =>
      have usable : IsUsable segment := (exists_parse_eq_ok_iff plainHere).mp ⟨predicate, reads⟩
      rw [if_pos (decide_eq_true usable), parse_eq_ok_iff.mp reads]
      rfl
    | error cause =>
      have unusable : ¬ IsUsable segment := by
        intro usable
        obtain ⟨predicate, read⟩ := (exists_parse_eq_ok_iff plainHere).mpr usable
        cases reads.symm.trans read
      rw [if_neg (by simpa using unusable)]
      rfl

/-- The predicates that are read from a text, written out again, are its usable pieces. -/
theorem map_encode_segments (text : String) :
    ((segments text).filterMap Except.toOption).map Predicate.encode = usablePieces text := by
  rw [segments_eq, List.filterMap_map]
  exact map_encode_filterMap_parse not_mem_of_mem_pieces

/-- A text is read as a rule if its usable pieces are the texts of the predicates of the rule, and there are any. -/
theorem parse?_eq_some_iff :
    parse? text = some rule ↔
      usablePieces text ≠ [] ∧ rule.predicates.map Predicate.encode = usablePieces text := by
  have injective : Function.Injective Predicate.encode := by
    intro first second same
    have read := parse_eq_ok_iff.mpr (rfl : first.encode = first.encode)
    rw [parse_eq_ok_iff.mpr same] at read
    exact (Except.ok.inj read).symm
  rw [← map_encode_segments, (List.map_injective_iff.mpr injective).eq_iff, Ne, List.map_eq_nil_iff]
  obtain ⟨predicates⟩ := rule
  unfold parse?
  split
  · next none => simp [none]
  · next read nonempty =>
    constructor
    · intro found
      cases found
      exact ⟨nonempty, rfl⟩
    · rintro ⟨-, rfl⟩
      rfl

/-- A rule is read from a text exactly when one of its pieces is usable. -/
theorem isSome_parse?_iff : (parse? text).isSome ↔ ∃ segment ∈ pieces text, IsUsable segment := by
  have someUsable : usablePieces text ≠ [] ↔ ∃ segment ∈ pieces text, IsUsable segment := by
    simp [usablePieces]
  rw [← someUsable, Option.isSome_iff_exists]
  constructor
  · rintro ⟨rule, found⟩
    exact (parse?_eq_some_iff.mp found).1
  · intro nonempty
    exact ⟨_, parse?_eq_some_iff.mpr ⟨nonempty, map_encode_segments text⟩⟩

/-- A rule and the text that it was read from. -/
structure IsReadFrom (text : String) (rule : Rule) : Prop where
  separates : List.Forall₂
    (fun segment predicate => Separates segment predicate.property predicate.value)
    (usablePieces text) rule.predicates
  encode_eq : rule.encode = ";".intercalate (usablePieces text)
  parse?_encode : parse? rule.encode = some rule

/-- The usable pieces of a text are those of its rule, as they stand. -/
theorem isReadFrom_of_parse? (found : parse? text = some rule) : rule.IsReadFrom text := by
  have written := (parse?_eq_some_iff.mp found).2
  refine ⟨?_, ?_, Rule.parse?_encode (isWritable_of_parse? found)⟩
  · rw [← written, List.forall₂_map_left_iff, List.forall₂_same]
    exact fun predicate _ => separates_encode predicate
  · rw [← written, ← String.toList_inj, String.toList_intercalate, encode, String.toList_ofList,
      List.map_map]
    rfl

/-- What reading a text comes to, as a whole and segment by segment. -/
structure IsReadBySegments (text : String) : Prop where
  intercalate_pieces : ";".intercalate (pieces text) = text
  not_mem_of_mem_pieces : ∀ segment ∈ pieces text, ';' ∉ segment.toList
  answers : List.Forall₂ Answers (pieces text) (segments text)
  not_reserved : ∀ segment property found,
    .error (.invalidPredicate segment (.reservedCharacter property found)) ∉ segments text
  isSome_iff : (parse? text).isSome ↔ ∃ segment ∈ pieces text, IsUsable segment
  isReadFrom : ∀ rule, parse? text = some rule → rule.IsReadFrom text

/-- Reading accepts exactly the grammar, whatever the text is. -/
theorem parse?_exact (text : String) : IsReadBySegments text where
  intercalate_pieces := intercalate_pieces text
  not_mem_of_mem_pieces := not_mem_of_mem_pieces
  answers := forall₂_answers text
  not_reserved segment property found member := by
    rw [segments_eq] at member
    obtain ⟨piece, isPiece, refused⟩ := List.mem_map.mp member
    have answers := answers_parse (not_mem_of_mem_pieces piece isPiece)
    rw [refused] at answers
    cases answers
  isSome_iff := isSome_parse?_iff
  isReadFrom _ := isReadFrom_of_parse?

/-- Of a text with stray separators three segments are usable. -/
theorem parse?_littered :
    ∃ rule, parse? "junk;src=a=b;;=x;pcl=~é;w=;" = some rule ∧
      rule.encode = "src=a=b;pcl=~é;w=" ∧ parse? rule.encode = some rule := by
  have reads := parse?_exact "junk;src=a=b;;=x;pcl=~é;w=;"
  obtain ⟨rule, found⟩ := Option.isSome_iff_exists.mp (reads.isSome_iff.mpr (by decide))
  have readFrom := reads.isReadFrom rule found
  exact ⟨rule, found, readFrom.encode_eq.trans (by decide), readFrom.parse?_encode⟩

end Rule

end ElementSearch
