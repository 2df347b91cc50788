import ElementSearch.Proofs.Text.Slices
import ElementSearch.Text.Pixels
import Mathlib.Data.List.Infix

/-!
# What is written behind a length

A length is read from the left, up to the first character that is no digit, while its unit is looked for from the right.
The two do not get in each other's way: what stands before the last `px` starts with the same integer as the whole text
(`leadingInteger_withoutUnit`), and whatever is written behind an integer, other than a digit, leaves it as it is
(`leadingInteger_append`).

`cutAtUnit?` and `readByBytes?` find the places at which the text is cut in its bytes. Their cuts never fail, and they give
the same results: `cutAtUnit?_eq`, `readByBytes?_eq`.
-/

namespace ElementSearch.Pixels

open ElementSearch.Text

/-- The text `px`. -/
def unit : List Char := ['p', 'x']

section LastUnit

/-- A text is not cut exactly when it holds no `px`. -/
theorem beforeLastUnit?_eq_none_iff {text : List Char} :
    beforeLastUnit? text = none ↔ ¬ unit <:+: text := by
  induction text with
  | nil => simp [beforeLastUnit?, unit]
  | cons character rest ih =>
    have starts_iff : unit <+: character :: rest ↔ character = 'p' ∧ rest.head? = some 'x' := by
      cases rest <;> simp [unit, List.cons_prefix_cons, eq_comm]
    rw [List.infix_cons_iff, starts_iff, not_or, ← ih, beforeLastUnit?]
    cases beforeLastUnit? rest with
    | some before => simp
    | none => simp

/-- A `px` behind which there is none is the last one. -/
theorem beforeLastUnit?_append {behind : List Char} (last : ¬ unit <:+: behind)
    (before : List Char) : beforeLastUnit? (before ++ (unit ++ behind)) = some before := by
  induction before with
  | nil =>
    have noneBehind := beforeLastUnit?_eq_none_iff.mpr last
    simp [unit, beforeLastUnit?, noneBehind]
  | cons character before ih => rw [List.cons_append, beforeLastUnit?, ih]

/-- A text is cut at a `px` behind which there is none. -/
theorem exists_of_beforeLastUnit? {text before : List Char}
    (cut : beforeLastUnit? text = some before) :
    ∃ behind, text = before ++ (unit ++ behind) ∧ ¬ unit <:+: behind := by
  induction text generalizing before with
  | nil => cases cut
  | cons character rest ih =>
    unfold beforeLastUnit? at cut
    split at cut
    · next earlier found =>
      cases cut
      obtain ⟨behind, rfl, last⟩ := ih found
      exact ⟨behind, rfl, last⟩
    · next noneInRest =>
      split at cut
      · next starts =>
        cases cut
        obtain ⟨rfl, startsWithX⟩ := starts
        obtain ⟨behind, rfl⟩ := List.head?_eq_some_iff.mp startsWithX
        refine ⟨behind, rfl, fun further => ?_⟩
        exact beforeLastUnit?_eq_none_iff.mp noneInRest (List.infix_cons further)
      · cases cut

/-- A text is cut at its last `px`, and left as it is without one. -/
theorem withoutUnit_cases (text : String) :
    ¬ unit <:+: text.toList ∧ withoutUnit text = text ∨
      ∃ behind, text.toList = (withoutUnit text).toList ++ (unit ++ behind) ∧
        ¬ unit <:+: behind := by
  unfold withoutUnit
  cases cut : beforeLastUnit? text.toList with
  | none => exact .inl ⟨beforeLastUnit?_eq_none_iff.mp cut, rfl⟩
  | some before =>
    rw [Option.elim_some, String.toList_ofList]
    exact .inr (exists_of_beforeLastUnit? cut)

/-- A `px` at the end is the last one and is cut off. -/
theorem withoutUnit_append (text : String) : withoutUnit (text ++ "px") = text := by
  have noneBehind : ¬ unit <:+: [] := by simp [unit]
  have cut := beforeLastUnit?_append noneBehind text.toList
  have written : (text ++ "px").toList = text.toList ++ (unit ++ []) := by
    rw [String.toList_append]
    rfl
  rw [withoutUnit, written, cut, Option.elim_some, String.ofList_toList]

end LastUnit

section Integer

/-- What follows a text that is not blank changes nothing of what is trimmed at its start. -/
theorem trimStart_append {front : List Char} (written : trimStart front ≠ []) (behind : List Char) :
    trimStart (front ++ behind) = trimStart front ++ behind := by
  unfold trimStart at written ⊢
  rw [List.dropWhile_append, if_neg (mt List.isEmpty_iff.mp written)]

/-- What follows a text changes nothing of the sign that is split off. -/
theorem splitSign_append {front : List Char} (written : front ≠ []) (behind : List Char) :
    splitSign (front ++ behind) = ((splitSign front).1, (splitSign front).2 ++ behind) := by
  cases front with
  | nil => exact absurd rfl written
  | cons first rest =>
    rw [List.cons_append]
    unfold splitSign
    split <;> simp_all

/-- What starts with another character adds nothing to the digits before it. -/
theorem takeWhile_append_of_stop {test : Char → Bool} {front behind : List Char}
    (stops : ∀ character, behind.head? = some character → test character = false) :
    (front ++ behind).takeWhile test = front.takeWhile test := by
  have nothing : behind.takeWhile test = [] := by
    cases behind with
    | nil => rfl
    | cons first rest => rw [List.takeWhile_cons_of_neg (by simp [stops first rfl])]
  induction front with
  | nil => exact nothing
  | cons first front ih => simp only [List.cons_append, List.takeWhile_cons, ih]

/-- A blank text holds no integer. -/
theorem leadingInteger_of_blank {text : String} (blank : trimStart text.toList = []) :
    leadingInteger text = none := by
  simp [leadingInteger, blank, splitSign]

/-- What is written behind something that is no blank, and starts with no digit, does not change the integer. -/
theorem leadingInteger_append_of_written {front behind : String}
    (written : trimStart front.toList ≠ [])
    (stops : ∀ character, behind.toList.head? = some character → character.isDigit = false) :
    leadingInteger (front ++ behind) = leadingInteger front := by
  unfold leadingInteger
  rw [String.toList_append, trimStart_append written, splitSign_append written]
  simp only [takeWhile_append_of_stop stops]

/-- What is written behind an integer, and starts with no digit, does not change it. -/
theorem leadingInteger_append {front behind : String} (isInteger : (leadingInteger front).isSome)
    (stops : ∀ character, behind.toList.head? = some character → character.isDigit = false) :
    leadingInteger (front ++ behind) = leadingInteger front := by
  refine leadingInteger_append_of_written (fun blank => ?_) stops
  rw [leadingInteger_of_blank blank] at isInteger
  cases isInteger

/-- A text has the integer that stands before its last `px`, if there is one at all. -/
theorem leadingInteger_withoutUnit (text : String) :
    leadingInteger (withoutUnit text) = leadingInteger text := by
  rcases withoutUnit_cases text with ⟨_, same⟩ | ⟨behind, cut, _⟩
  · rw [same]
  · have whole : text = withoutUnit text ++ String.ofList (unit ++ behind) := by
      rw [← String.toList_inj, String.toList_append, String.toList_ofList]
      exact cut
    have startsWithP : (unit ++ behind).head? = some 'p' := rfl
    by_cases written : trimStart (withoutUnit text).toList = []
    · -- the text starts with `px`, apart from blanks
      have trimmed : trimStart text.toList = unit ++ behind := by
        unfold trimStart at written ⊢
        rw [cut, List.dropWhile_append, written]
        rfl
      have noInteger : leadingInteger text = none := by
        simp [leadingInteger, trimmed, unit, splitSign]
      rw [leadingInteger_of_blank written, noInteger]
    · conv_rhs => rw [whole]
      refine (leadingInteger_append_of_written written fun character first => ?_).symm
      rw [String.toList_ofList, startsWithP] at first
      cases first
      decide

end Integer

section Bytes

/-- The text up to the byte at which `px` occurs last, or all of it. -/
def cutAtUnit? (text : List Char) : Option (List Char) :=
  match lastOffset? (bytes unit) (bytes text) with
  | some offset => upTo? offset text
  | none => some text

/-- Whether the first byte of a text is a minus sign, and the text from the byte behind its sign on. -/
def cutSign? (text : List Char) : Option (Bool × List Char) :=
  if (bytes text).head? = some (asciiByte '-') then (from? 1 text).map (true, ·)
  else if (bytes text).head? = some (asciiByte '+') then (from? 1 text).map (false, ·)
  else some (false, text)

/-- The integer that a text starts with, if there is one, its digits being cut off at the byte at which the first other
character stands. There is no answer if a cut fails. -/
def readByBytes? (text : List Char) : Option (Option Float) :=
  (cutSign? (trimStart text)).bind fun (negative, unsigned) =>
    let stop := (offsetOf? (fun character => !character.isDigit) unsigned).getD (bytes unsigned).length
    if stop = 0 then some none
    else (upTo? stop unsigned).map fun digits => some (signedValue negative digits)

/-- The last `px` among the bytes of a text is the last one of the text. -/
theorem lastOffset?_unit (text : List Char) :
    lastOffset? (bytes unit) (bytes text) =
      (beforeLastUnit? text).map fun before => (bytes before).length := by
  have units : bytes unit = [asciiByte 'p', asciiByte 'x'] := rfl
  rw [units]
  induction text with
  | nil => rfl
  | cons character rest ih =>
    by_cases isP : character = 'p'
    · subst isP
      have one : bytes ('p' :: rest) = asciiByte 'p' :: bytes rest := rfl
      have starts_iff : [asciiByte 'p', asciiByte 'x'].isPrefixOf (asciiByte 'p' :: bytes rest) ↔
          rest.head? = some 'x' := by
        rw [List.isPrefixOf_iff_prefix, List.cons_prefix_cons, and_iff_right rfl,
          singleton_prefix_iff, head?_bytes_eq_iff (by decide)]
      rw [one, lastOffset?, ih, beforeLastUnit?]
      cases beforeLastUnit? rest with
      | some before => rfl
      | none =>
        by_cases startsWithX : rest.head? = some 'x'
        · simp only [Option.map_none, starts_iff.mpr startsWithX, startsWithX, and_self, if_true]
          rfl
        · simp only [Option.map_none, starts_iff, startsWithX, and_false, if_false]
    -- no byte of another character is that of `p`, so the search steps over it whole
    · have passed : asciiByte 'p' ∉ String.utf8EncodeChar character := by
        by_cases ascii : character.toNat < 128
        · rw [utf8EncodeChar_of_lt ascii, List.mem_singleton,
            asciiByte_inj (by decide) ascii]
          exact fun same => isP same.symm
        · intro member
          have greater := le_toNat_of_mem_utf8EncodeChar (Nat.le_of_not_lt ascii) _ member
          exact absurd greater (by decide)
      rw [bytes_cons, lastOffset?_append _ passed, ih, beforeLastUnit?]
      cases beforeLastUnit? rest with
      | some before => simp [bytes_cons]
      | none => simp [isP]

/-- The cut at the unit never fails, and gives the text without its unit. -/
theorem cutAtUnit?_eq (text : String) : cutAtUnit? text.toList = some (withoutUnit text).toList := by
  unfold cutAtUnit? withoutUnit
  rw [lastOffset?_unit]
  cases cut : beforeLastUnit? text.toList with
  | none => rfl
  | some before =>
    obtain ⟨behind, whole, _⟩ := exists_of_beforeLastUnit? cut
    rw [Option.map_some, Option.elim_some, String.toList_ofList]
    simp only [whole]
    exact upTo?_append before _

/-- The cut behind a sign never fails. -/
theorem cutSign?_eq (text : List Char) : cutSign? text = some (splitSign text) := by
  unfold cutSign?
  simp only [head?_bytes_eq_iff (show '-'.toNat < 128 by decide),
    head?_bytes_eq_iff (show '+'.toNat < 128 by decide)]
  cases text with
  | nil => rfl
  | cons first rest =>
    have behind : ∀ sign, (bytes [sign]).length = 1 → from? 1 (sign :: rest) = some rest := by
      intro sign size
      rw [← size]
      exact from?_append [sign] rest
    by_cases isMinus : first = '-'
    · subst isMinus
      simp [behind '-' rfl, splitSign]
    · by_cases isPlus : first = '+'
      · subst isPlus
        simp [behind '+' rfl, splitSign]
      · have noSign : splitSign (first :: rest) = (false, first :: rest) := by
          unfold splitSign
          split <;> simp_all
        simp [isMinus, isPlus, noSign]

/-- The cut behind the digits never fails, and gives the integer that the text starts with. -/
theorem readByBytes?_eq (text : String) : readByBytes? text.toList = some (leadingInteger text) := by
  unfold readByBytes? leadingInteger
  rw [cutSign?_eq, Option.bind_some]
  rcases splitSign (trimStart text.toList) with ⟨negative, unsigned⟩
  simp only [offsetOf?_getD, Bool.not_not]
  have digits_append : unsigned.takeWhile Char.isDigit ++ unsigned.dropWhile Char.isDigit = unsigned :=
    List.takeWhile_append_dropWhile
  cases digits : unsigned.takeWhile Char.isDigit with
  | nil => rfl
  | cons first others =>
    have pos : (bytes (first :: others)).length ≠ 0 := by
      rw [Ne, List.length_eq_zero_iff, bytes_eq_nil_iff]
      exact List.cons_ne_nil first others
    rw [digits] at digits_append
    rw [if_neg pos]
    conv_lhs => rw [← digits_append]
    rw [upTo?_append, Option.map_some]

end Bytes

end ElementSearch.Pixels
