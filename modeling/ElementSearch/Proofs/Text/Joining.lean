import ElementSearch.Text.Replace
import Mathlib.Data.List.Basic

/-!
# Joined texts

Parts are joined with a separator between any two of them. Where lists of parts follow each other with a mark as a part
between them, their joined texts are themselves joined with a longer separator, the mark with the first one on each
side of it: `intercalate_intercalate`. No list may be empty for this, but parts may. Where a separator holds a character
that is in no part, replacing its occurrences replaces the separators and nothing else: `replaceAll_intercalate`. The
parts may hold anything else of it, and so may begin or end like it. Both together tell what becomes of texts that are
joined in groups: `replaceAll_groups`.
-/

namespace ElementSearch.Text

section Joining

variable {α : Type} (separator : List α)

/-- Joined parts are the first part and, for each further one, a separator and the part. -/
theorem intercalate_cons_eq (part : List α) (parts : List (List α)) :
    separator.intercalate (part :: parts) = part ++ parts.flatMap (separator ++ ·) := by
  induction parts generalizing part with
  | nil => simp
  | cons next parts ih =>
    rw [List.intercalate_cons_cons, ih, List.flatMap_cons]
    simp only [List.append_assoc]

/-- Each part but the last one is followed by a separator. -/
theorem intercalate_concat (parts : List (List α)) (last : List α) :
    separator.intercalate (parts ++ [last]) = parts.flatMap (· ++ separator) ++ last := by
  induction parts with
  | nil => simp
  | cons part parts ih =>
    have further : parts ++ [last] ≠ [] := by simp
    rw [List.cons_append, List.intercalate_cons_of_ne_nil further, ih, List.flatMap_cons]
    simp only [List.append_assoc]

/-- Two lists of parts joined together are joined by one separator in between. -/
theorem intercalate_append {parts others : List (List α)} (notEmpty : parts ≠ [])
    (further : others ≠ []) :
    separator.intercalate (parts ++ others) =
      separator.intercalate parts ++ separator ++ separator.intercalate others := by
  induction parts with
  | nil => exact absurd rfl notEmpty
  | cons part parts ih =>
    cases parts with
    | nil => simp [List.intercalate_cons_of_ne_nil further]
    | cons next parts =>
      rw [List.cons_append, List.cons_append, List.intercalate_cons_cons, ← List.cons_append,
        ih (List.cons_ne_nil next parts), List.intercalate_cons_cons]
      simp only [List.append_assoc]

/-- What is in a joined text is in the separator or in a part. -/
theorem of_mem_intercalate {element : α} {parts : List (List α)}
    (member : element ∈ separator.intercalate parts) :
    element ∈ separator ∨ ∃ part ∈ parts, element ∈ part := by
  cases parts with
  | nil => cases member
  | cons part parts =>
    rw [intercalate_cons_eq] at member
    rcases List.mem_append.mp member with inFirst | behind
    · exact .inr ⟨part, List.mem_cons_self, inFirst⟩
    · obtain ⟨other, isPart, inOther⟩ := List.mem_flatMap.mp behind
      exact (List.mem_append.mp inOther).imp_right fun inPart =>
        ⟨other, List.mem_cons_of_mem part isPart, inPart⟩

/-- Lists that are joined with a mark between them, and then joined throughout, come to the same as what each of them
is joined to, joined with a longer separator. -/
theorem intercalate_intercalate (mark : List α) {lists : List (List (List α))}
    (nonempty : ∀ list ∈ lists, list ≠ []) :
    separator.intercalate (List.intercalate [mark] lists) =
      (separator ++ mark ++ separator).intercalate (lists.map separator.intercalate) := by
  induction lists with
  | nil => rfl
  | cons list lists ih =>
    cases lists with
    | nil => simp
    | cons next lists =>
      have notEmpty : list ≠ [] := nonempty list List.mem_cons_self
      have behind := ih fun other member => nonempty other (List.mem_cons_of_mem list member)
      have further : List.intercalate [mark] (next :: lists) ≠ [] := by
        simp [intercalate_cons_eq, nonempty next (by simp)]
      rw [List.intercalate_cons_cons, List.append_assoc, List.singleton_append,
        intercalate_append separator notEmpty (List.cons_ne_nil _ _),
        List.intercalate_cons_of_ne_nil further, behind]
      simp only [List.map_cons, List.intercalate_cons_cons, List.append_assoc]

end Joining

section Replacing

variable {mark : Char} {front : List Char} (noMark : mark ∉ front) (back replacement : List Char)

/-- Where a match was taken, replacing goes on behind it. -/
theorem replaceFrom_length (pattern taken rest : List Char) :
    replaceFrom pattern replacement taken.length (taken ++ rest) =
      replaceAll pattern replacement rest := by
  induction taken with
  | nil => rfl
  | cons character taken ih => exact ih

/-- A text without the mark is not changed where the pattern holds the mark. -/
theorem replaceAll_eq_self_of_notMem {text : List Char} (clear : mark ∉ text) :
    replaceAll (front ++ mark :: back) replacement text = text := by
  refine replaceAll_eq_self fun suffix within _ => Bool.eq_false_iff.mpr fun starts => ?_
  have marked : mark ∈ suffix := (List.isPrefixOf_iff_prefix.mp starts).subset (by simp)
  exact clear (within.subset marked)

include noMark

/-- Two texts that agree up to their first marks, which follow parts without any, have the same part there. -/
theorem eq_of_append_mark_eq {text after after' : List Char} (clear : mark ∉ text)
    (same : front ++ mark :: after = text ++ mark :: after') : front = text := by
  have upToMark : ∀ {part : List Char}, mark ∉ part → ∀ rest,
      (part ++ mark :: rest).takeWhile (· ≠ mark) = part := by
    intro part absent rest
    have passed : ∀ character ∈ part, decide (character ≠ mark) = true := by
      rintro character member
      exact decide_eq_true fun isMark => absent (isMark ▸ member)
    rw [List.takeWhile_append_of_pos passed, List.takeWhile_cons_of_neg (by simp), List.append_nil]
  rw [← upToMark noMark after, same, upToMark clear after']

/-- An occurrence of the pattern is replaced if no mark comes before it, whatever else does. -/
theorem replaceAll_append {text : List Char} (clear : mark ∉ text) (rest : List Char) :
    replaceAll (front ++ mark :: back) replacement (text ++ (front ++ mark :: back) ++ rest) =
      text ++ replacement ++ replaceAll (front ++ mark :: back) replacement rest := by
  induction text with
  | nil =>
    obtain ⟨first, others, isPattern⟩ := List.exists_cons_of_ne_nil
      (List.append_ne_nil_of_right_ne_nil front (List.cons_ne_nil mark back))
    rw [isPattern, List.nil_append, List.nil_append, List.cons_append]
    have starts : (first :: others).isPrefixOf (first :: (others ++ rest)) :=
      List.isPrefixOf_iff_prefix.mpr (List.prefix_append (first :: others) rest)
    rw [replaceAll, replaceFrom, if_pos starts, List.length_cons, Nat.add_sub_cancel,
      replaceFrom_length]
  | cons character text ih =>
    have behind := ih fun member => clear (List.mem_cons_of_mem character member)
    have notHere : ¬ (front ++ mark :: back).isPrefixOf
        (character :: (text ++ (front ++ mark :: back) ++ rest)) := by
      -- the first mark of the text would be the one of the pattern, which has `front` alone before it
      intro starts
      obtain ⟨after, same⟩ := List.isPrefixOf_iff_prefix.mp starts
      have clearFront : mark ∉ character :: text ++ front := by
        rw [List.mem_append]
        exact not_or_intro clear noMark
      have split : front ++ mark :: (back ++ after) =
          (character :: text ++ front) ++ mark :: (back ++ rest) := by
        simpa using same
      have lengths := congrArg List.length (eq_of_append_mark_eq noMark clearFront split)
      simp only [List.length_append, List.length_cons] at lengths
      omega
    rw [List.cons_append, List.cons_append, replaceAll, replaceFrom, if_neg notHere]
    exact congrArg (character :: ·) behind

/-- Where no part holds the mark of the separator, replacing the separator replaces nothing else. -/
theorem replaceAll_intercalate {parts : List (List Char)} (clear : ∀ part ∈ parts, mark ∉ part) :
    replaceAll (front ++ mark :: back) replacement ((front ++ mark :: back).intercalate parts) =
      replacement.intercalate parts := by
  induction parts with
  | nil => rfl
  | cons part parts ih =>
    have clearHere := clear part List.mem_cons_self
    cases parts with
    | nil =>
      rw [List.intercalate_singleton, List.intercalate_singleton]
      exact replaceAll_eq_self_of_notMem back replacement clearHere
    | cons next parts =>
      have behind := ih fun other member => clear other (List.mem_cons_of_mem part member)
      rw [List.intercalate_cons_cons, List.intercalate_cons_cons,
        replaceAll_append noMark back replacement clearHere, behind]

/-- Texts that are joined in groups, with the mark as a text between any two groups, show the groups once the
separators around the marks are replaced. -/
theorem replaceAll_groups (replacement : List Char) {groups : List (List (List Char))}
    (nonempty : ∀ group ∈ groups, group ≠ [])
    (clear : ∀ group ∈ groups, ∀ text ∈ group, mark ∉ text) :
    replaceAll (front ++ mark :: front) replacement
        (front.intercalate (List.intercalate [[mark]] groups)) =
      replacement.intercalate (groups.map front.intercalate) := by
  have joined := intercalate_intercalate front [mark] nonempty
  rw [List.append_assoc, List.singleton_append] at joined
  rw [joined]
  refine replaceAll_intercalate noMark front replacement fun part isPart inPart => ?_
  obtain ⟨group, isGroup, rfl⟩ := List.mem_map.mp isPart
  rcases of_mem_intercalate front inPart with between | ⟨text, isText, inText⟩
  · exact noMark between
  · exact clear group isGroup text isText inText

end Replacing

end ElementSearch.Text
