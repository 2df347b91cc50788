import ElementSearch.Text.Ascii
import ElementSearch.Text.Blank
import ElementSearch.Text.Pattern

/-!
# Letter case

How the two foldings of letter case relate. Text that is all ASCII has one lowercase form, whichever folding
makes it; of other text the full folding identifies more. It never identifies less: folding ASCII first changes nothing
for it (`lowercased_asciiLowercase`), nor for patterns and words. No folding makes a text empty.
-/

namespace ElementSearch.Text

/-- Whether all characters of a text are ASCII. -/
def IsAscii (text : String) : Prop :=
  ∀ character ∈ text.toList, character.toNat < 0x80

instance (text : String) : Decidable (IsAscii text) :=
  List.decidableBAll _ _

/-- What is the same for each capital letter of ASCII and its small form does not depend on case within ASCII. -/
theorem comp_toLower_of_capitals {α : Type} {f : Char → α}
    (capitals : ∀ code ∈ List.range' 65 26, f (Char.ofNat code).toLower = f (Char.ofNat code))
    (character : Char) : f character.toLower = f character := by
  by_cases capital : character.val ≥ 'A'.val ∧ character.val ≤ 'Z'.val
  · have low : 65 ≤ character.toNat := UInt32.le_iff_toNat_le.mp capital.1
    have high : character.toNat ≤ 90 := UInt32.le_iff_toNat_le.mp capital.2
    rw [← Char.ofNat_toNat character]
    exact capitals character.toNat (List.mem_range'_1.mpr ⟨low, Nat.lt_succ_of_le high⟩)
  · rw [show character.toLower = character from dif_neg capital]

/-- Folding a text once is enough. -/
theorem asciiLowercase_asciiLowercase (text : String) :
    asciiLowercase (asciiLowercase text) = asciiLowercase text := by
  rw [← String.toList_inj, toList_asciiLowercase, toList_asciiLowercase, List.map_map]
  exact List.map_congr_left fun character _ => comp_toLower_of_capitals (by decide) character

/-- ASCII characters are lowercased one by one, whatever is before them. -/
theorem lowercaseAfter_of_isAscii {before text : List Char}
    (ascii : ∀ character ∈ text, character.toNat < 0x80) :
    lowercaseAfter before text = text.map Char.toLower := by
  induction text generalizing before with
  | nil => rfl
  | cons character rest ih =>
    obtain ⟨first, others⟩ := List.forall_mem_cons.mp ascii
    have noSigma : character ≠ 'Σ' := by
      rintro rfl
      exact absurd first (by decide)
    rw [lowercaseAfter, if_neg noSigma, ih others, lowercaseCharacter, if_pos first]
    rfl

/-- Within ASCII the foldings are one. -/
theorem lowercased_of_isAscii {text : String} (ascii : IsAscii text) :
    lowercased text = asciiLowercase text := by
  rw [lowercased, asciiLowercase, lowercase, lowercaseAfter_of_isAscii ascii]

/-- Between ASCII texts, ASCII case is all there is to ignore. -/
theorem sameIgnoringAsciiCase_iff {left right : String} (leftAscii : IsAscii left)
    (rightAscii : IsAscii right) :
    sameIgnoringAsciiCase left right ↔ lowercased left = lowercased right := by
  rw [sameIgnoringAsciiCase, beq_iff_eq, lowercased_of_isAscii leftAscii,
    lowercased_of_isAscii rightAscii]

/-- No character is lowercased to nothing. -/
private theorem lowercaseCharacter_ne_nil (character : Char) :
    lowercaseCharacter character ≠ [] := by
  unfold lowercaseCharacter
  split
  · simp
  · split <;> simp

/-- A folding leaves no character out. -/
theorem lowercased_eq_empty_iff {text : String} : lowercased text = "" ↔ text = "" := by
  have inList : ∀ characters : List Char, lowercase characters = [] ↔ characters = [] := by
    intro characters
    cases characters with
    | nil => simp [lowercase, lowercaseAfter]
    | cons character rest =>
      unfold lowercase lowercaseAfter
      by_cases sigma : character = 'Σ'
      · simp [sigma]
      · simp [sigma, lowercaseCharacter_ne_nil]
  rw [← String.toList_inj, toList_lowercased, ← String.toList_inj]
  exact inList text.toList

/-- Of two texts with the same form, both are empty or neither is. -/
theorem eq_empty_iff_of_lowercased_eq {left right : String}
    (same : lowercased left = lowercased right) : left = "" ↔ right = "" := by
  rw [← lowercased_eq_empty_iff, same, lowercased_eq_empty_iff]

/-- A pattern without a wildcard asks for equality up to letter case. -/
theorem satisfies_iff {text pattern : String} (plain : isWildcard pattern = false) :
    satisfies text pattern ↔ lowercased text = lowercased pattern := by
  rw [← String.toList_inj, toList_lowercased, toList_lowercased]
  unfold satisfies
  split
  · next needle written => simp [isWildcard, written] at plain
  · exact beq_iff_eq

/-- A pattern with a wildcard asks for its rest to occur, up to letter case. -/
theorem satisfies_iff_isInfix {text pattern : String} (wildcard : isWildcard pattern) :
    satisfies text pattern ↔ lowercase pattern.toList.tail <:+: lowercase text.toList := by
  unfold satisfies
  split
  · next needle written => simp [written]
  · next plain =>
    cases written : pattern.toList with
    | nil => simp [isWildcard, written] at wildcard
    | cons first rest =>
      simp only [isWildcard, written, List.head?_cons, beq_iff_eq, Option.some.injEq] at wildcard
      exact absurd (wildcard ▸ written) (plain rest)

section Respelled

/-! The full folding, and all that is read off a text by it, is blind to case within ASCII. The final sigma is no
exception: it depends on which characters around it are cased letters and which are passed over, and a letter of ASCII
and its other form are both cased. -/

/-- Folding a character does not change whether it is cased. -/
theorem isCased_toLower (character : Char) : isCased character.toLower = isCased character :=
  comp_toLower_of_capitals (by decide) character

/-- Folding a character does not change whether it is case-ignorable. -/
theorem isCaseIgnorable_toLower (character : Char) :
    isCaseIgnorable character.toLower = isCaseIgnorable character :=
  comp_toLower_of_capitals (by decide +kernel) character

/-- Folding a character does not change whether it is blank. -/
theorem isBlank_toLower (character : Char) : isBlank character.toLower = isBlank character :=
  comp_toLower_of_capitals (by decide) character

/-- A folded character has the lowercase form of the character. -/
theorem lowercaseCharacter_toLower (character : Char) :
    lowercaseCharacter character.toLower = lowercaseCharacter character :=
  comp_toLower_of_capitals (by decide) character

/-- Folding a text does not change whether it starts cased. -/
theorem startsCased_map_toLower (text : List Char) :
    startsCased (text.map Char.toLower) = startsCased text := by
  have ignored : isCaseIgnorable ∘ Char.toLower = isCaseIgnorable := funext isCaseIgnorable_toLower
  rw [startsCased, startsCased, List.dropWhile_map, ignored, List.head?_map, Option.any_map]
  simp only [isCased_toLower]

/-- A text has the same lowercase form after it and what is before it have been folded. -/
theorem lowercaseAfter_map_toLower (before text : List Char) :
    lowercaseAfter (before.map Char.toLower) (text.map Char.toLower) = lowercaseAfter before text := by
  induction text generalizing before with
  | nil => rfl
  | cons character rest ih =>
    have sigma : character.toLower = 'Σ' ↔ character = 'Σ' :=
      iff_of_eq (comp_toLower_of_capitals (f := (· = 'Σ')) (by decide) character)
    have place : endsWord (before.map Char.toLower) (rest.map Char.toLower) = endsWord before rest := by
      rw [endsWord, endsWord, startsCased_map_toLower, startsCased_map_toLower]
    rw [List.map_cons, lowercaseAfter, lowercaseAfter, ← List.map_cons, ih, place,
      lowercaseCharacter_toLower]
    simp only [sigma]

/-- Folding the characters of a text leaves its lowercase form alone. -/
theorem lowercase_map_toLower (text : List Char) : lowercase (text.map Char.toLower) = lowercase text :=
  lowercaseAfter_map_toLower [] text

/-- Folding a text leaves its lowercase form alone. -/
theorem lowercased_asciiLowercase (text : String) : lowercased (asciiLowercase text) = lowercased text := by
  rw [lowercased, lowercased, toList_asciiLowercase, lowercase_map_toLower]

/-- Folding a pattern leaves its wildcard alone. -/
theorem isWildcard_asciiLowercase (pattern : String) :
    isWildcard (asciiLowercase pattern) = isWildcard pattern := by
  have mark : ∀ character : Char, (some character.toLower == some '~') = (some character == some '~') :=
    comp_toLower_of_capitals (f := fun character => some character == some '~') (by decide)
  rw [isWildcard, isWildcard, toList_asciiLowercase, List.head?_map]
  cases pattern.toList.head? with
  | none => rfl
  | some first => exact mark first

/-- Whether a text satisfies a pattern does not depend on case within ASCII. -/
theorem satisfies_asciiLowercase (text pattern : String) :
    satisfies (asciiLowercase text) (asciiLowercase pattern) = satisfies text pattern := by
  rw [Bool.eq_iff_iff]
  cases wildcard : isWildcard pattern with
  | false =>
    rw [satisfies_iff wildcard, satisfies_iff ((isWildcard_asciiLowercase pattern).trans wildcard),
      lowercased_asciiLowercase, lowercased_asciiLowercase]
  | true =>
    rw [satisfies_iff_isInfix wildcard,
      satisfies_iff_isInfix ((isWildcard_asciiLowercase pattern).trans wildcard),
      toList_asciiLowercase, toList_asciiLowercase, ← List.map_tail, lowercase_map_toLower,
      lowercase_map_toLower]

/-- A mapped list is split where the images separate. -/
private theorem splitOnP_map {α β : Type} (f : α → β) (separates : β → Bool) (items : List α) :
    (items.map f).splitOnP separates = (items.splitOnP (separates ∘ f)).map (List.map f) := by
  induction items with
  | nil => rfl
  | cons item rest ih =>
    rw [List.map_cons, List.splitOnP_cons_eq_if_modifyHead, List.splitOnP_cons_eq_if_modifyHead, ih]
    by_cases separate : separates (f item)
    · simp [separate]
    · cases rest.splitOnP (separates ∘ f) <;> simp [separate]

/-- Folding a text leaves its words where they are. -/
theorem words_asciiLowercase (text : String) :
    words (asciiLowercase text) = (words text).map asciiLowercase := by
  have blank : isBlank ∘ Char.toLower = isBlank := funext isBlank_toLower
  rw [words, words, toList_asciiLowercase, splitOnP_map, blank, List.filter_map, List.map_map,
    List.map_map]
  have nonempty : ((fun word : List Char => decide (word ≠ [])) ∘ List.map Char.toLower) =
      fun word => decide (word ≠ []) := by
    funext word
    simp
  rw [nonempty]
  refine List.map_congr_left fun word _ => ?_
  simp [asciiLowercase]

/-- The words of a folded text have the lowercase forms of the words of the text. -/
theorem map_lowercased_words_asciiLowercase (text : String) :
    (words (asciiLowercase text)).map lowercased = (words text).map lowercased := by
  rw [words_asciiLowercase, List.map_map]
  exact List.map_congr_left fun word _ => lowercased_asciiLowercase word

/-- Only the empty text is folded to the empty text. -/
theorem asciiLowercase_eq_empty_iff {text : String} : asciiLowercase text = "" ↔ text = "" := by
  rw [← lowercased_eq_empty_iff, lowercased_asciiLowercase, lowercased_eq_empty_iff]

/-- Folding two texts does not change whether they agree but for ASCII case. -/
theorem sameIgnoringAsciiCase_asciiLowercase (left right : String) :
    sameIgnoringAsciiCase (asciiLowercase left) (asciiLowercase right) =
      sameIgnoringAsciiCase left right := by
  simp only [sameIgnoringAsciiCase, asciiLowercase_asciiLowercase]

/-- The tag that stands for every element has no letters to fold. -/
theorem asciiLowercase_eq_asterisk_iff {tag : String} : asciiLowercase tag = "*" ↔ tag = "*" := by
  have mark : ∀ character : Char, character.toLower = '*' ↔ character = '*' := fun character =>
    iff_of_eq (comp_toLower_of_capitals (f := (· = '*')) (by decide) character)
  rw [← String.toList_inj, ← String.toList_inj, toList_asciiLowercase]
  rcases tag.toList with _ | ⟨first, _ | ⟨second, rest⟩⟩ <;> simp [mark]

end Respelled

end ElementSearch.Text
