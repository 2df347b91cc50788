import ElementSearch.Proofs.Arena.SourcePaths

/-!
# Elements without a source

An element without a `src` attribute has no source that could be asked for, and a value that does not start with a slash
does not find it. A value that does is compared by its path with the path of no text, which is empty, and so is the path
of a value that is no URL. So such a value, and no other, finds every element without a source
(`foundWithoutSource`), for instance two slashes with no host behind them (`finds_image_without_source`).
-/

namespace ElementSearch

open Text Url

namespace Url

variable {reference : String}

/-- Only what cannot be read has no path. -/
theorem pathname_eq_empty_iff :
    pathname reference = "" ↔ reference = "" ∨ ofReference? reference = none := by
  unfold pathname
  by_cases empty : reference = ""
  · simp [empty]
  · cases ofReference? reference with
    | none => simp
    | some url =>
      rw [if_neg empty, ← String.toList_inj]
      by_cases slash : url.path.head? = some '/'
      · have written : url.path ≠ [] := fun none => by simp [none] at slash
        simp [slash, written, empty]
      · simp [slash, empty]

/-- A reference that starts with a slash can be read unless another one follows. -/
theorem ofReference?_ne_none (slash : reference.toList.head? = some '/')
    (lone : (inputOf reference).tail.head?.any isSlash = false) : ofReference? reference ≠ none := by
  obtain ⟨rest, written⟩ : ∃ rest, reference.toList = ['/'] ++ rest := by
    cases characters : reference.toList with
    | nil => simp [characters] at slash
    | cons first rest =>
      rw [characters] at slash
      exact ⟨rest, by rw [Option.some.inj slash]; rfl⟩
  have input := inputOf_eq_append written (by simp) (by simp)
  have split : splitScheme? (inputOf reference) = none := by
    rw [input]
    rfl
  have noHost : ['/', '/'].isPrefixOf reference.toList = false := by
    refine Bool.eq_false_iff.mpr fun slashes => ?_
    obtain ⟨behind, twice⟩ := List.isPrefixOf_iff_prefix.mp slashes
    rw [inputOf_of_slashes twice] at lone
    cases lone
  have read := map_path_ofReference? noHost split
  rw [input] at lone read
  have onPage := @relative_of_lone_slash placeholder '/' _ rfl lone
  intro none
  rw [none] at read
  cases read.trans (congrArg (fun url => (pathOf url).toOption) onPage)

end Url

namespace Arena

/-- When an element without a source is found by the predicate that asks for one. -/
structure FoundWithoutSource (arena : Arena) (value : String) (node : Handle) : Prop where
  holds_iff : (Predicate.source value).holds arena.host node ↔
    value.toList.head? = some '/' ∧ ofReference? value = none
  second_slash : (Predicate.source value).holds arena.host node →
    (inputOf value).tail.head?.any isSlash

variable {arena : Arena} {node : Handle}

/-- An element without the attribute has no property `src` either. -/
theorem property_src_of_missing (missing : arena.attributeValue node "src" = none) :
    arena.host.property node "src" = none := by
  unfold attributeValue at missing
  change arena.property node "src" = none
  unfold property
  cases isElement : arena.element? node with
  | none => rfl
  | some element =>
    rw [isElement] at missing
    change (element.attributeValue "src").map _ = none
    rw [show element.attributeValue "src" = none from missing]
    rfl

/-- The property that reflects a source is a text. -/
theorem property_src_eq (node : Handle) :
    arena.host.property node "src" =
      (arena.attributeValue node "src").map fun written => .text (arena.resolve node written) := by
  cases present : arena.attributeValue node "src" with
  | none => exact property_src_of_missing present
  | some written => exact property_src present

/-- Without a slash in front, a value is compared with the whole property. -/
theorem holds_source_iff_property {value : String} (noSlash : value.toList.head? ≠ some '/') :
    (Predicate.source value).holds arena.host node ↔
      ∃ shown, arena.host.property node "src" = some (.text shown) ∧ satisfies shown value := by
  rw [holds_source_eq, Predicate.hasSource, if_neg noSlash, property_src_eq]
  cases present : arena.attributeValue node "src" with
  | none => simp
  | some written => simp [isElement_of_attributeValue present, PropertyValue.satisfies]

/-- An element without a source is found by the values that start with a slash and are no URL. Such a value has two
slashes in front, with tabs and line breaks not counted and backslashes taken for slashes. -/
theorem foundWithoutSource (element : arena.host.isElement node)
    (missing : arena.attributeValue node "src" = none) (value : String) :
    arena.FoundWithoutSource value node := by
  have property := property_src_of_missing missing
  have noSource : Predicate.sourceOf arena.host node = "" := by
    unfold Predicate.sourceOf
    rw [show arena.host.attributeValue node "src" = none from missing, property]
    rfl
  have holds_iff : (Predicate.source value).holds arena.host node ↔
      value.toList.head? = some '/' ∧ ofReference? value = none := by
    by_cases slash : value.toList.head? = some '/'
    · have nonempty : value ≠ "" := fun empty => by simp [empty] at slash
      rw [holds_source_iff_path slash, and_iff_right element, noSource, pathname_empty, eq_comm,
        lowercased_eq_empty_iff.mpr rfl, lowercased_eq_empty_iff, pathname_eq_empty_iff]
      simp [slash, nonempty]
    · rw [holds_source_iff_property slash, property]
      simp [slash]
  refine ⟨holds_iff, fun holds => ?_⟩
  obtain ⟨slash, unreadable⟩ := holds_iff.mp holds
  cases second : (inputOf value).tail.head?.any isSlash with
  | true => rfl
  | false => exact absurd unreadable (ofReference?_ne_none slash second)

section BareImage

/-- A page that is an image without a source. -/
def bareImage : Arena :=
  empty.after [.createDocument none, .addElement 0 "img" []]

/-- Neither a path from the root nor a host with a path finds the image, whether or not it is a pattern. -/
theorem foundWithoutSource_bareImage :
    ¬ (Predicate.source "/logo.png").holds bareImage.host 1 ∧
      ¬ (Predicate.source "//localhost/logo.png").holds bareImage.host 1 ∧
      ¬ (Predicate.source "~//").holds bareImage.host 1 := by
  have found : ∀ value, bareImage.FoundWithoutSource value 1 :=
    foundWithoutSource (by decide) (by decide)
  refine ⟨fun holds => ?_, fun holds => ?_, fun holds => ?_⟩
  · exact absurd ((found _).second_slash holds) (by decide)
  · exact absurd ((found _).holds_iff.mp holds).2 (by decide +kernel)
  · exact absurd ((found _).holds_iff.mp holds).1 (by decide)

/-- Two slashes without a host behind them find the image, though it has no source. -/
theorem finds_image_without_source :
    bareImage.Reachable ∧ bareImage.host.isElement 1 ∧
      bareImage.attributeValue 1 "src" = none ∧ bareImage.host.property 1 "src" = none ∧
      (Predicate.source "//").holds bareImage.host 1 := by
  have missing : bareImage.attributeValue 1 "src" = none := by decide
  exact ⟨⟨_, rfl⟩, by decide, missing, property_src_of_missing missing, by decide +kernel⟩

end BareImage

end Arena

end ElementSearch
