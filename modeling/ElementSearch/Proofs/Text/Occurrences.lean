import ElementSearch.Proofs.Text.LetterCase

/-!
# Literal occurrences

A pattern with a wildcard finds a text that literally holds the rest of the pattern if lowercase does not change the
occurrence. Lowercase does not look at the neighbours of any character but a capital sigma, which is `ς` where it ends a
word. A capital sigma whose neighbours in the pattern settle whether it ends a word has the same form in every text, so
a pattern finds all its literal occurrences exactly if its capital sigmas are settled (`findsLiterally`). One at the
edge of a pattern is not, and is missed where the text goes on differently (`misses_literal_sigma`).
-/

namespace ElementSearch.Text

/-- The form of a capital sigma, by whether it ends a word. -/
def sigmaForm (ends : Bool) : Char :=
  if ends then 'ς' else 'σ'

/-- The lowercase form of `text` in its place, where `before` is what precedes it, read backwards, and `behind` is what
follows it. -/
def lowercaseWithin (before behind : List Char) : List Char → List Char
  | [] => []
  | character :: after =>
    let form :=
      if character = 'Σ' then [sigmaForm (endsWord before (after ++ behind))]
      else lowercaseCharacter character
    form ++ lowercaseWithin (character :: before) behind after

/-- Whether a text starts, case-ignorable characters being passed over, with a character that is no cased letter. -/
def startsUncased (text : List Char) : Bool :=
  !text.all isCaseIgnorable && !startsCased text

/-- Whether the characters around a capital sigma settle that it ends a word or that it does not, whatever there is
further away. Before it they are read backwards. -/
def SettlesSigma (before after : List Char) : Prop :=
  startsUncased before ∨ startsCased after ∨ startsCased before ∧ startsUncased after

instance (before after : List Char) : Decidable (SettlesSigma before after) := by
  unfold SettlesSigma
  infer_instance

/-- A text is settled if each of its capital sigmas is. -/
def HasSettledSigmas (text : List Char) : Prop :=
  ∀ before after, text = before ++ 'Σ' :: after → SettlesSigma before.reverse after

section Places

variable {before behind : List Char}

/-- The first part of a text is lowercased in its place, in front of the second one. -/
theorem lowercaseAfter_append (before text behind : List Char) :
    lowercaseAfter before (text ++ behind) =
      lowercaseWithin before behind text ++ lowercaseAfter (text.reverse ++ before) behind := by
  induction text generalizing before with
  | nil => rfl
  | cons character after ih =>
    rw [List.cons_append, lowercaseAfter, lowercaseWithin, ih, List.reverse_cons, List.append_assoc,
      List.append_assoc]
    rfl

/-- Two parts are lowercased each in its place beside the other. -/
theorem lowercaseWithin_append (before behind text more : List Char) :
    lowercaseWithin before behind (text ++ more) =
      lowercaseWithin before (more ++ behind) text ++
        lowercaseWithin (text.reverse ++ before) behind more := by
  induction text generalizing before with
  | nil => rfl
  | cons character after ih =>
    rw [List.cons_append, lowercaseWithin, lowercaseWithin, ih, List.reverse_cons, List.append_assoc,
      List.append_assoc, List.append_assoc]
    rfl

/-- A whole text is lowercased in a place with nothing around it. -/
theorem lowercase_eq_within (text : List Char) : lowercase text = lowercaseWithin [] [] text := by
  have whole := lowercaseAfter_append [] text []
  rwa [List.append_nil, lowercaseAfter, List.append_nil] at whole

/-- The form of a text in parts. -/
theorem lowercase_parts (front text rest : List Char) :
    lowercase (front ++ text ++ rest) =
      lowercaseWithin [] (text ++ rest) front ++ lowercaseWithin front.reverse rest text ++
        lowercaseAfter (text.reverse ++ front.reverse) rest := by
  rw [lowercase, List.append_assoc, lowercaseAfter_append, lowercaseAfter_append, List.append_nil,
    List.append_assoc]

/-- A text has the same form in two places where the same ones of its capital sigmas end words. -/
theorem lowercaseWithin_congr {text otherBefore otherBehind : List Char}
    (same : ∀ front rest, text = front ++ 'Σ' :: rest →
      endsWord (front.reverse ++ before) (rest ++ behind) =
        endsWord (front.reverse ++ otherBefore) (rest ++ otherBehind)) :
    lowercaseWithin before behind text = lowercaseWithin otherBefore otherBehind text := by
  induction text generalizing before otherBefore with
  | nil => rfl
  | cons character after ih =>
    have others := @ih (character :: before) (character :: otherBefore)
      fun front rest split => by simpa using same (character :: front) rest (by rw [split]; rfl)
    rw [lowercaseWithin, lowercaseWithin, others]
    by_cases sigma : character = 'Σ'
    · have first := same [] after (by rw [sigma]; rfl)
      rw [if_pos sigma, if_pos sigma, show endsWord before (after ++ behind) = _ from first]
      rfl
    · rw [if_neg sigma, if_neg sigma]

end Places

section Settled

variable {text before after : List Char}

/-- What follows a text decides only where all of the text is passed over. -/
theorem startsCased_append (text more : List Char) :
    startsCased (text ++ more) =
      if text.all isCaseIgnorable then startsCased more else startsCased text := by
  induction text with
  | nil => rfl
  | cons character rest ih =>
    cases passed : isCaseIgnorable character with
    | true => simpa [startsCased, passed] using ih
    | false => simp [startsCased, passed]

/-- A text that is passed over as a whole does not start cased. -/
theorem startsCased_of_all (passed : text.all isCaseIgnorable) : startsCased text = false := by
  have alone := startsCased_append text []
  rw [if_pos passed, List.append_nil] at alone
  exact alone

/-- What starts cased does so whatever follows. -/
theorem startsCased_append_of_startsCased (cased : startsCased text) (more : List Char) :
    startsCased (text ++ more) := by
  rw [startsCased_append]
  split
  · rename_i passed
    rw [startsCased_of_all passed] at cased
    cases cased
  · exact cased

/-- What starts uncased does not start cased. -/
theorem startsCased_of_startsUncased (uncased : startsUncased text) : startsCased text = false := by
  unfold startsUncased at uncased
  simpa using (Bool.and_eq_true_iff.mp uncased).2

/-- What starts uncased does not start cased whatever follows. -/
theorem startsCased_append_of_startsUncased (uncased : startsUncased text) (more : List Char) :
    startsCased (text ++ more) = false := by
  have stops : text.all isCaseIgnorable = false := by
    unfold startsUncased at uncased
    simpa using (Bool.and_eq_true_iff.mp uncased).1
  rw [startsCased_append, stops]
  exact startsCased_of_startsUncased uncased

/-- Whether a settled sigma ends a word does not depend on what is further away. -/
theorem SettlesSigma.endsWord_append (settles : SettlesSigma before after)
    (further behind : List Char) :
    endsWord (before ++ further) (after ++ behind) = endsWord before after := by
  unfold endsWord
  rcases settles with uncased | cased | ⟨cased, uncased⟩
  · rw [startsCased_append_of_startsUncased uncased, startsCased_of_startsUncased uncased,
      Bool.false_and, Bool.false_and]
  · rw [startsCased_append_of_startsCased cased, cased, Bool.not_true, Bool.and_false,
      Bool.and_false]
  · rw [startsCased_append_of_startsCased cased, cased,
      startsCased_append_of_startsUncased uncased, startsCased_of_startsUncased uncased]

end Settled

section Counting

variable {ends : Bool} {before behind otherBefore otherBehind : List Char}

/-- The two forms of a sigma are told apart by counting. -/
theorem count_sigmaForm (found : Bool) :
    [sigmaForm found].count (sigmaForm ends) = if found = ends then 1 else 0 := by
  cases found <;> cases ends <;> decide

/-- A form of the capital sigma is not rarer in a place where it has all the ends of words of another one. -/
theorem count_sigmaForm_le {text : List Char}
    (imp : ∀ front rest, text = front ++ 'Σ' :: rest →
      endsWord (front.reverse ++ before) (rest ++ behind) = ends →
      endsWord (front.reverse ++ otherBefore) (rest ++ otherBehind) = ends) :
    (lowercaseWithin before behind text).count (sigmaForm ends) ≤
      (lowercaseWithin otherBefore otherBehind text).count (sigmaForm ends) := by
  induction text generalizing before otherBefore with
  | nil => exact Nat.le_refl _
  | cons character after ih =>
    have others := @ih (character :: before) (character :: otherBefore)
      fun front rest split => by simpa using imp (character :: front) rest (by rw [split]; rfl)
    rw [lowercaseWithin, lowercaseWithin, List.count_append, List.count_append]
    refine Nat.add_le_add ?_ others
    by_cases sigma : character = 'Σ'
    · have first : endsWord before (after ++ behind) = ends →
          endsWord otherBefore (after ++ otherBehind) = ends := imp [] after (by rw [sigma]; rfl)
      rw [if_pos sigma, if_pos sigma, count_sigmaForm, count_sigmaForm]
      by_cases here : endsWord before (after ++ behind) = ends
      · exact Nat.le_of_eq (by rw [if_pos here, if_pos (first here)])
      · rw [if_neg here]
        exact Nat.zero_le _
    · exact Nat.le_of_eq (by rw [if_neg sigma, if_neg sigma])

/-- It is more frequent there if one capital sigma has the form only there. -/
theorem count_sigmaForm_lt {front rest : List Char}
    (imp : ∀ front' rest', front ++ 'Σ' :: rest = front' ++ 'Σ' :: rest' →
      endsWord (front'.reverse ++ before) (rest' ++ behind) = ends →
      endsWord (front'.reverse ++ otherBefore) (rest' ++ otherBehind) = ends)
    (here : endsWord (front.reverse ++ before) (rest ++ behind) ≠ ends)
    (there : endsWord (front.reverse ++ otherBefore) (rest ++ otherBehind) = ends) :
    (lowercaseWithin before behind (front ++ 'Σ' :: rest)).count (sigmaForm ends) <
      (lowercaseWithin otherBefore otherBehind (front ++ 'Σ' :: rest)).count (sigmaForm ends) := by
  have inFront : (lowercaseWithin before ('Σ' :: rest ++ behind) front).count (sigmaForm ends) ≤
      (lowercaseWithin otherBefore ('Σ' :: rest ++ otherBehind) front).count (sigmaForm ends) :=
    count_sigmaForm_le fun front' rest' split => by
      simpa using imp front' (rest' ++ 'Σ' :: rest) (by rw [split]; simp)
  have inRest :
      (lowercaseWithin ('Σ' :: (front.reverse ++ before)) behind rest).count (sigmaForm ends) ≤
        (lowercaseWithin ('Σ' :: (front.reverse ++ otherBefore)) otherBehind rest).count
          (sigmaForm ends) :=
    count_sigmaForm_le fun front' rest' split => by
      simpa using imp (front ++ 'Σ' :: front') rest' (by rw [split]; simp)
  rw [lowercaseWithin_append, lowercaseWithin_append, List.count_append, List.count_append,
    lowercaseWithin, lowercaseWithin, if_pos rfl, if_pos rfl, List.count_append, List.count_append,
    count_sigmaForm, count_sigmaForm, if_neg here, if_pos there]
  omega

end Counting

section Finding

variable {text : List Char}

/-- A text is found where the same ones of its capital sigmas end words as in the text alone. -/
theorem lowercase_isInfix_in_place {front rest : List Char}
    (same : ∀ before after, text = before ++ 'Σ' :: after →
      endsWord (before.reverse ++ front.reverse) (after ++ rest) = endsWord before.reverse after) :
    lowercase text <:+: lowercase (front ++ text ++ rest) := by
  have inPlace : lowercaseWithin front.reverse rest text = lowercase text := by
    rw [lowercase_eq_within]
    exact lowercaseWithin_congr fun before after split => by simpa using same before after split
  exact inPlace ▸ lowercase_parts front text rest ▸ ⟨_, _, rfl⟩

/-- The form of a settled text occurs wherever the text does. -/
theorem lowercase_isInfix_of_settled (settled : HasSettledSigmas text) (front rest : List Char) :
    lowercase text <:+: lowercase (front ++ text ++ rest) :=
  lowercase_isInfix_in_place fun before after split =>
    (settled before after split).endsWord_append front.reverse rest

/-- A text without a capital sigma is settled. -/
theorem hasSettledSigmas_of_not_mem (noSigma : 'Σ' ∉ text) : HasSettledSigmas text := by
  rintro before after rfl
  exact absurd (by simp) noSigma

/-- The folded form of an ASCII character is an ASCII character. -/
theorem toNat_toLower_lt {character : Char} (ascii : character.toNat < 0x80) :
    character.toLower.toNat < 0x80 := by
  have all : ∀ code < 0x80, (Char.ofNat code).toLower.toNat < 0x80 := by decide
  simpa using all character.toNat ascii

/-- A text that equals one of ASCII up to letter case has no capital sigma, whose forms are not ASCII. -/
theorem not_mem_sigma_of_lowercased_eq {text other : String} (ascii : IsAscii other)
    (same : lowercased text = lowercased other) : 'Σ' ∉ text.toList := by
  intro member
  obtain ⟨front, rest, split⟩ := List.append_of_mem member
  have form : sigmaForm (endsWord front.reverse rest) ∈ (lowercased text).toList := by
    rw [toList_lowercased, split, List.append_cons, lowercase_parts]
    simp [lowercaseWithin]
  rw [same, lowercased_of_isAscii ascii, toList_asciiLowercase] at form
  obtain ⟨character, inOther, made⟩ := List.mem_map.mp form
  have isAscii := toNat_toLower_lt (ascii character inOther)
  rw [made] at isAscii
  have notAscii : ∀ ends, ¬ (sigmaForm ends).toNat < 0x80 := by decide
  exact notAscii _ isAscii

/-- A text is not found where a character is rarer in its form, and missing around it. -/
theorem not_isInfix_of_count_lt {front rest : List Char} (mark : Char)
    (inFront : mark ∉ lowercaseWithin [] (text ++ rest) front)
    (inRest : mark ∉ lowercaseAfter (text.reverse ++ front.reverse) rest)
    (lt : (lowercaseWithin front.reverse rest text).count mark <
      (lowercaseWithin [] [] text).count mark) :
    ¬ lowercase text <:+: lowercase (front ++ text ++ rest) := by
  intro found
  have le := found.sublist.count_le mark
  rw [lowercase_parts, List.count_append, List.count_append, List.count_eq_zero.mpr inFront,
    List.count_eq_zero.mpr inRest, lowercase_eq_within] at le
  omega

theorem startsCased_letter : startsCased ['a'] := by
  decide +kernel

/-- A sigma that ends a word as far as the text goes does not end it before a letter, and no other sigma ends a word
only there. -/
theorem not_isInfix_before_letter {before after : List Char} (cased : startsCased before.reverse)
    (passed : after.all isCaseIgnorable) (split : text = before ++ 'Σ' :: after) :
    ¬ lowercase text <:+: lowercase ([] ++ text ++ ['a']) := by
  refine not_isInfix_of_count_lt (sigmaForm true) (by simp [lowercaseWithin])
    (by simp [lowercaseAfter, lowercaseCharacter, sigmaForm]) ?_
  rw [split]
  refine count_sigmaForm_lt (fun front rest _ ends => ?_) ?_ ?_
  · obtain ⟨letterBefore, noneAfter⟩ := Bool.and_eq_true_iff.mp ends
    rw [startsCased_append] at noneAfter
    split at noneAfter
    · simp [startsCased_letter] at noneAfter
    · have letterBefore : startsCased (front.reverse ++ []) = true := letterBefore
      rw [endsWord, List.append_nil rest, letterBefore]
      exact noneAfter
  · simp [endsWord, startsCased_append, passed, startsCased_letter]
  · simp [endsWord, startsCased_of_all passed, cased]

/-- A sigma that has no letter before it as far as the text goes ends a word behind a letter, and no other sigma ends
one only in the text alone. -/
theorem not_isInfix_behind_letter {before after : List Char}
    (passed : before.reverse.all isCaseIgnorable) (notCased : startsCased after = false)
    (split : text = before ++ 'Σ' :: after) :
    ¬ lowercase text <:+: lowercase (['a'] ++ text ++ []) := by
  refine not_isInfix_of_count_lt (sigmaForm false)
    (by simp [lowercaseWithin, lowercaseCharacter, sigmaForm]) (by simp [lowercaseAfter]) ?_
  rw [split]
  refine count_sigmaForm_lt (fun front rest _ none => ?_) ?_ ?_
  · cases alone : endsWord (front.reverse ++ []) (rest ++ []) with
    | false => rfl
    | true =>
      obtain ⟨letterBefore, noneAfter⟩ := Bool.and_eq_true_iff.mp alone
      rw [List.append_nil] at letterBefore
      rw [endsWord, startsCased_append_of_startsCased letterBefore] at none
      exact noneAfter.symm.trans none
  · simp [endsWord, startsCased_append, passed, startsCased_letter, notCased]
  · simp [endsWord, startsCased_of_all passed]

/-- A text with a sigma that is not settled is missed somewhere. -/
theorem exists_not_isInfix {before after : List Char} (split : text = before ++ 'Σ' :: after)
    (unsettled : ¬ SettlesSigma before.reverse after) :
    ∃ front rest, ¬ lowercase text <:+: lowercase (front ++ text ++ rest) := by
  obtain ⟨notUncased, notCased, notBoth⟩ : startsUncased before.reverse = false ∧
      startsCased after = false ∧ (startsCased before.reverse → startsUncased after = false) := by
    simpa [SettlesSigma] using unsettled
  cases cased : startsCased before.reverse with
  | true =>
    have passed : after.all isCaseIgnorable := by
      simpa [startsUncased, notCased] using notBoth cased
    exact ⟨_, _, not_isInfix_before_letter cased passed split⟩
  | false =>
    have passed : before.reverse.all isCaseIgnorable := by
      simpa [startsUncased, cased] using notUncased
    exact ⟨_, _, not_isInfix_behind_letter passed notCased split⟩

/-- Settled texts are the ones that are found wherever they stand. -/
theorem hasSettledSigmas_iff :
    HasSettledSigmas text ↔
      ∀ front rest, lowercase text <:+: lowercase (front ++ text ++ rest) := by
  refine ⟨lowercase_isInfix_of_settled, fun found before after split => ?_⟩
  refine Decidable.byContradiction fun unsettled => ?_
  obtain ⟨front, rest, missed⟩ := exists_not_isInfix split unsettled
  exact missed (found front rest)

end Finding

/-- Which of its literal occurrences the pattern with a wildcard finds. -/
structure FindsLiterally (needle : String) : Prop where
  everywhere_iff : (∀ front rest : String, satisfies (front ++ needle ++ rest) ("~" ++ needle)) ↔
    HasSettledSigmas needle.toList
  in_place : ∀ front rest : String,
    (∀ before after, needle.toList = before ++ 'Σ' :: after →
      endsWord (before.reverse ++ front.toList.reverse) (after ++ rest.toList) =
        endsWord before.reverse after) →
    satisfies (front ++ needle ++ rest) ("~" ++ needle)

/-- A wildcard finds a text whose lowercase form holds the lowercase form of the needle. -/
theorem satisfies_wildcard_iff {text needle : String} :
    satisfies text ("~" ++ needle) ↔ lowercase needle.toList <:+: lowercase text.toList := by
  have written : ("~" ++ needle).toList = '~' :: needle.toList := by
    rw [String.toList_append]
    rfl
  have wildcard : isWildcard ("~" ++ needle) := by
    rw [isWildcard, written]
    rfl
  rw [satisfies_iff_isInfix wildcard, written]
  rfl

/-- A pattern finds a text that it equals. -/
theorem satisfies_wildcard {text pattern : String} (plain : isWildcard pattern = false)
    (same : satisfies text pattern) : satisfies text ("~" ++ pattern) := by
  have forms := congrArg String.toList ((satisfies_iff plain).mp same)
  rw [toList_lowercased, toList_lowercased] at forms
  exact satisfies_wildcard_iff.mpr (forms ▸ List.infix_refl _)

/-- A pattern with a wildcard finds each literal occurrence in which its capital sigmas end words as they do in the
pattern, and all of them exactly if its capital sigmas are settled. -/
theorem findsLiterally (needle : String) : FindsLiterally needle := by
  have parts : ∀ front rest : String,
      (front ++ needle ++ rest).toList = front.toList ++ needle.toList ++ rest.toList :=
    fun front rest => by rw [String.toList_append, String.toList_append]
  refine ⟨?_, fun front rest same => ?_⟩
  · simp only [satisfies_wildcard_iff, parts, hasSettledSigmas_iff]
    refine ⟨fun found front rest => ?_, fun found front rest => found _ _⟩
    simpa using found (String.ofList front) (String.ofList rest)
  · rw [satisfies_wildcard_iff, parts]
    exact lowercase_isInfix_in_place same

/-- A capital sigma is missed at the end of a word, where the text has another form of it than the pattern. -/
theorem misses_literal_sigma :
    ¬ satisfies ("ΟΔΟ" ++ "Σ" ++ "") ("~" ++ "Σ") := by
  decide +kernel

end ElementSearch.Text
