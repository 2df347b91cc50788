import Mathlib.Data.List.Basic

/-!
# Cutting a text at a byte

A text can be cut at a byte of its UTF-8 form, unless it has no such byte or the byte stands inside a character. Cutting
succeeds at the end of what the text starts with (`upTo?_append`, `from?_append`). Looking for ASCII characters byte by byte
finds such places only, since the bytes of all other characters are greater: `head?_bytes_eq_iff`, `lastOffset?_append`.
-/

namespace ElementSearch.Text

/-- The bytes of a text in UTF-8. -/
def bytes (text : List Char) : List UInt8 :=
  text.flatMap String.utf8EncodeChar

/-- The byte of an ASCII character. -/
def asciiByte (character : Char) : UInt8 :=
  UInt8.ofNat character.toNat

/-- The text up to a byte. There is none if the text is shorter or the byte stands inside a character. -/
def upTo? (offset : Nat) : List Char → Option (List Char)
  | [] => if offset = 0 then some [] else none
  | character :: rest =>
    if offset = 0 then some []
    else if offset < character.utf8Size then none
    else (upTo? (offset - character.utf8Size) rest).map (character :: ·)

/-- The text from a byte on. There is none if the text is shorter or the byte stands inside a character. -/
def from? (offset : Nat) : List Char → Option (List Char)
  | [] => if offset = 0 then some [] else none
  | character :: rest =>
    if offset = 0 then some (character :: rest)
    else if offset < character.utf8Size then none
    else from? (offset - character.utf8Size) rest

/-- The byte at which the first character stands that passes a test. -/
def offsetOf? (test : Char → Bool) : List Char → Option Nat
  | [] => none
  | character :: rest =>
    if test character then some 0 else (offsetOf? test rest).map (character.utf8Size + ·)

/-- The byte at which some bytes, of which there is one at least, occur for the last time. -/
def lastOffset? (wanted : List UInt8) : List UInt8 → Option Nat
  | [] => none
  | byte :: rest =>
    match lastOffset? wanted rest with
    | some offset => some (offset + 1)
    | none => if wanted.isPrefixOf (byte :: rest) then some 0 else none

@[simp] theorem bytes_nil : bytes [] = [] := rfl

theorem bytes_cons (character : Char) (rest : List Char) :
    bytes (character :: rest) = String.utf8EncodeChar character ++ bytes rest := rfl

/-- A character has as many bytes as its size in UTF-8. -/
theorem length_bytes_cons (character : Char) (rest : List Char) :
    (bytes (character :: rest)).length = character.utf8Size + (bytes rest).length := by
  rw [bytes_cons, List.length_append, String.length_utf8EncodeChar]

/-- Only the empty text has no bytes. -/
theorem bytes_eq_nil_iff {text : List Char} : bytes text = [] ↔ text = [] := by
  cases text with
  | nil => simp
  | cons character rest =>
    have pos := character.utf8Size_pos
    have length := length_bytes_cons character rest
    constructor
    · intro none
      rw [none, List.length_nil] at length
      omega
    · nofun

section Cutting

/-- Cutting behind the bytes of a front part gives the front part. -/
theorem upTo?_append (front rest : List Char) :
    upTo? (bytes front).length (front ++ rest) = some front := by
  induction front with
  | nil => cases rest <;> rfl
  | cons character front ih =>
    have pos := character.utf8Size_pos
    rw [length_bytes_cons, List.cons_append, upTo?, if_neg (by omega), if_neg (by omega),
      Nat.add_sub_cancel_left, ih, Option.map_some]

/-- Cutting behind the bytes of a front part leaves the rest. -/
theorem from?_append (front rest : List Char) :
    from? (bytes front).length (front ++ rest) = some rest := by
  induction front with
  | nil => cases rest <;> rfl
  | cons character front ih =>
    have pos := character.utf8Size_pos
    rw [length_bytes_cons, List.cons_append, from?, if_neg (by omega), if_neg (by omega),
      Nat.add_sub_cancel_left, ih]

/-- The first character that passes a test, or else the end, stands behind all that precede it. -/
theorem offsetOf?_getD (test : Char → Bool) (text : List Char) :
    (offsetOf? test text).getD (bytes text).length =
      (bytes (text.takeWhile fun character => !test character)).length := by
  induction text with
  | nil => rfl
  | cons character rest ih =>
    cases passes : test character with
    | true => simp [offsetOf?, passes]
    | false =>
      simp only [offsetOf?, passes, List.takeWhile_cons, Bool.not_false, if_true,
        length_bytes_cons, ← ih]
      cases offsetOf? test rest <;> simp

end Cutting

section Ascii

/-- An ASCII character is encoded as its one byte. -/
theorem utf8EncodeChar_of_lt {character : Char} (ascii : character.toNat < 128) :
    String.utf8EncodeChar character = [asciiByte character] := by
  have le : character.val.toNat ≤ 127 := Nat.le_of_lt_succ ascii
  simp only [String.utf8EncodeChar, le, if_true]
  rfl

/-- The bytes of a character that is not ASCII are greater than those of ASCII characters. -/
theorem le_toNat_of_mem_utf8EncodeChar {character : Char} (beyond : 128 ≤ character.toNat) :
    ∀ byte ∈ String.utf8EncodeChar character, 128 ≤ byte.toNat := by
  have marked : ∀ {code : Nat}, 128 ≤ code → code < 256 → 128 ≤ (UInt8.ofNat code).toNat := by
    intro code le lt
    rwa [UInt8.toNat_ofNat', Nat.mod_eq_of_lt lt]
  -- all bytes but the first are this one or one like it, with six more bits of the code
  have last : 128 ≤ (UInt8.ofNat (character.val.toNat % 64 + 128)).toNat :=
    marked (by omega) (by omega)
  have notOne : ¬ character.val.toNat ≤ 127 := Nat.not_le_of_lt beyond
  unfold String.utf8EncodeChar
  simp only [notOne, if_false]
  split_ifs <;>
    simp only [List.forall_mem_cons, List.not_mem_nil, false_implies, implies_true, and_true]
  · exact ⟨marked (by omega) (by omega), last⟩
  · exact ⟨marked (by omega) (by omega), marked (by omega) (by omega), last⟩
  · exact ⟨marked (by omega) (by omega), marked (by omega) (by omega), marked (by omega) (by omega),
      last⟩

/-- The byte of an ASCII character has its value. -/
theorem toNat_asciiByte {character : Char} (ascii : character.toNat < 128) :
    (asciiByte character).toNat = character.toNat := by
  rw [asciiByte, UInt8.toNat_ofNat', Nat.mod_eq_of_lt (by omega)]

/-- ASCII characters differ in their bytes. -/
theorem asciiByte_inj {first second : Char} (left : first.toNat < 128) (right : second.toNat < 128) :
    asciiByte first = asciiByte second ↔ first = second := by
  constructor
  · intro same
    have codes := congrArg UInt8.toNat same
    rw [toNat_asciiByte left, toNat_asciiByte right] at codes
    exact Char.toNat_inj.mp codes
  · exact congrArg asciiByte

/-- A text starts with the byte of an ASCII character if and only if it starts with the character. -/
theorem head?_bytes_eq_iff {wanted : Char} (ascii : wanted.toNat < 128) {text : List Char} :
    (bytes text).head? = some (asciiByte wanted) ↔ text.head? = some wanted := by
  cases text with
  | nil => simp
  | cons character rest =>
    rw [bytes_cons, List.head?_cons, Option.some.injEq]
    by_cases isAscii : character.toNat < 128
    · rw [utf8EncodeChar_of_lt isAscii, List.singleton_append, List.head?_cons, Option.some.injEq,
        asciiByte_inj isAscii ascii]
    · refine iff_of_false (fun first => ?_) ?_
      · -- the first byte is one of the first character
        have nonempty : String.utf8EncodeChar character ≠ [] := by
          rw [← List.length_pos_iff, String.length_utf8EncodeChar]
          exact character.utf8Size_pos
        rw [List.head?_append_of_ne_nil _ nonempty] at first
        have greater := le_toNat_of_mem_utf8EncodeChar (Nat.le_of_not_lt isAscii) _
          (List.mem_of_head? first)
        rw [toNat_asciiByte ascii] at greater
        omega
      · rintro rfl
        exact isAscii ascii

/-- A single byte is a prefix where it is the first byte. -/
theorem singleton_prefix_iff {byte : UInt8} {found : List UInt8} :
    [byte] <+: found ↔ found.head? = some byte := by
  rw [List.head?_eq_some_iff]
  constructor
  · rintro ⟨rest, rfl⟩
    exact ⟨rest, rfl⟩
  · rintro ⟨rest, rfl⟩
    exact ⟨rest, rfl⟩

/-- Bytes that are no first byte of what is wanted are passed over. -/
theorem lastOffset?_append {first : UInt8} {others front : List UInt8} (rest : List UInt8)
    (passed : first ∉ front) :
    lastOffset? (first :: others) (front ++ rest) =
      (lastOffset? (first :: others) rest).map (front.length + ·) := by
  induction front with
  | nil => simp
  | cons byte front ih =>
    obtain ⟨differs, passed⟩ := not_or.mp (mt List.mem_cons.mpr passed)
    have noPrefix : (first == byte) = false := beq_eq_false_iff_ne.mpr differs
    rw [List.cons_append, lastOffset?, ih passed]
    cases lastOffset? (first :: others) rest with
    | none => simp [List.isPrefixOf, noPrefix]
    | some offset => simp [Nat.add_right_comm]

end Ascii

end ElementSearch.Text
