/-!
# Replacing parts of a text

Every occurrence of a pattern is replaced, from the left, the next one being looked for behind the one
before.
-/

namespace ElementSearch.Text

/-- Replaces a pattern behind `skip` characters that belong to an occurrence already replaced. -/
def replaceFrom (pattern replacement : List Char) : (skip : Nat) → List Char → List Char
  | _, [] => []
  | skip + 1, _ :: rest => replaceFrom pattern replacement skip rest
  | 0, character :: rest =>
    if pattern.isPrefixOf (character :: rest) then
      replacement ++ replaceFrom pattern replacement (pattern.length - 1) rest
    else
      character :: replaceFrom pattern replacement 0 rest

/-- Replaces every occurrence of a pattern, which is not empty. -/
def replaceAll (pattern replacement text : List Char) : List Char :=
  replaceFrom pattern replacement 0 text

/-- A text in which the pattern starts nowhere stays as it is. -/
theorem replaceAll_eq_self {pattern replacement text : List Char}
    (absent : ∀ suffix, suffix <:+ text → suffix ≠ [] → pattern.isPrefixOf suffix = false) :
    replaceAll pattern replacement text = text := by
  unfold replaceAll
  induction text with
  | nil => rfl
  | cons character rest ih =>
    unfold replaceFrom
    rw [if_neg, ih]
    · intro suffix within nonempty
      exact absent suffix (within.trans (List.suffix_cons character rest)) nonempty
    · simp [absent (character :: rest) (List.suffix_refl _) (List.cons_ne_nil _ _)]

end ElementSearch.Text
