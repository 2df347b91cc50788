/-!
# Punycode

The spelling of a label of a host name in ASCII. The ASCII characters of the label come first; then
each further character is written as the number of steps, in variable-length digits of base 36, that
a walk over code points and positions takes to the place where it is inserted.
-/

namespace ElementSearch.Url.Punycode

/-- The base of the digits. -/
def base : Nat := 36

/-- The digit of a number below the base: `a` to `z`, then `0` to `9`. -/
def digit (value : Nat) : Char :=
  if value < 26 then Char.ofNat ('a'.toNat + value) else Char.ofNat ('0'.toNat + value - 26)

/-- The value of a digit in either case. -/
def digitValue? (character : Char) : Option Nat :=
  if 'a' ≤ character ∧ character ≤ 'z' then some (character.toNat - 'a'.toNat)
  else if 'A' ≤ character ∧ character ≤ 'Z' then some (character.toNat - 'A'.toNat)
  else if '0' ≤ character ∧ character ≤ '9' then some (character.toNat - '0'.toNat + 26)
  else none

/-- A digit below this bound is the last one of its number. -/
def threshold (bias weight : Nat) : Nat :=
  max 1 (min 26 (weight - bias))

/-- A threshold is never zero, so what is left of a delta shrinks with every digit. -/
theorem one_le_threshold (bias weight : Nat) : 1 ≤ threshold bias weight := by
  unfold threshold
  omega

/-- Divides by 35 until at most 455 is left, counting a weight of 36 for each division. -/
def reduce (delta : Nat) (weight : Nat) : Nat :=
  if 455 < delta then reduce (delta / 35) (weight + base) else weight + base * delta / (delta + 38)
termination_by delta

/-- The bias for the next number, after one that inserted a character and made `count` of them. -/
def adapt (delta count : Nat) (first : Bool) : Nat :=
  let damped := if first then delta / 700 else delta / 2
  reduce (damped + damped / count) 0

/-- The digits of a number, of which the first has the given weight. -/
def digits (bias : Nat) (value weight : Nat) : List Char :=
  let bound := threshold bias weight
  if value < bound then
    [digit value]
  else
    digit (bound + (value - bound) % (base - bound)) ::
      digits bias ((value - bound) / (base - bound)) (weight + base)
termination_by value
decreasing_by
  have atLeast := one_le_threshold bias weight
  have quotient := Nat.div_le_self (value - threshold bias weight) (base - threshold bias weight)
  omega

/-- The state of writing: what is written, the steps since the last insertion, the bias, and the number
of characters placed. -/
structure Writer where
  written : List Char
  delta : Nat
  bias : Nat
  placed : Nat

/-- Passes a character of the label while the occurrences of one code point are inserted. -/
def Writer.pass (basicCount code : Nat) (writer : Writer) (character : Char) : Writer :=
  if character.toNat < code then
    { writer with delta := writer.delta + 1 }
  else if character.toNat = code then
    { written := writer.written ++ digits writer.bias writer.delta base
      delta := 0
      bias := adapt writer.delta (writer.placed + 1) (writer.placed == basicCount)
      placed := writer.placed + 1 }
  else
    writer

/-- Inserts the code points in ascending order, the walk standing at `reached`. -/
def Writer.insertAll (label : List Char) (basicCount : Nat) :
    List Nat → Nat → Writer → Writer
  | [], _, writer => writer
  | code :: codes, reached, writer =>
    let arrived := { writer with delta := writer.delta + (code - reached) * (writer.placed + 1) }
    let passed := label.foldl (Writer.pass basicCount code) arrived
    Writer.insertAll label basicCount codes (code + 1) { passed with delta := passed.delta + 1 }

/-- The Punycode spelling of a label. -/
def encode (label : List Char) : List Char :=
  let basic := label.filter (·.toNat < 0x80)
  let codes := ((label.map Char.toNat).filter (0x80 ≤ ·)).eraseDups.mergeSort (· ≤ ·)
  let start : Writer := ⟨[], 0, 72, basic.length⟩
  let lead := if basic.isEmpty then [] else basic ++ ['-']
  lead ++ (Writer.insertAll label basic.length codes 0x80 start).written

/-- Reads one number from digits: its value and the digits behind it. The weight of a digit is less than
2^32. -/
def number? (bias : Nat) : List Char → (weight factor value : Nat) → Option (Nat × List Char)
  | [], _, _, _ => none
  | character :: rest, weight, factor, value =>
    match digitValue? character with
    | none => none
    | some digitValue =>
      let bound := threshold bias weight
      if digitValue < bound then
        some (value + digitValue * factor, rest)
      else if 2 ^ 32 ≤ factor * (base - bound) then
        none
      else
        number? bias rest (weight + base) (factor * (base - bound)) (value + digitValue * factor)

/-- Inserts the characters that digits describe, one for each round. Before the first insertion the
position is zero, after any it is not. -/
def insertions? : (rounds : Nat) → List Char → (code position bias : Nat) → List Char →
    Option (List Char)
  | _, [], _, _, _, label => some label
  | 0, _, _, _, _, _ => none
  | rounds + 1, text, code, position, bias, label =>
    match number? bias text base 1 0 with
    | none => none
    | some (delta, rest) =>
      let places := label.length + 1
      let steps := position + delta
      let next := code + steps / places
      let place := steps % places
      if next.isValidChar then
        insertions? rounds rest next (place + 1) (adapt delta places (position == 0))
          (label.take place ++ Char.ofNat next :: label.drop place)
      else
        none

/-- The label that a Punycode spelling stands for. A hyphen at its start is no mark of an end but a digit,
which a hyphen cannot be. -/
def decode? (text : List Char) : Option (List Char) :=
  let cut := text.reverse.dropWhile (· ≠ '-')
  let basic := (cut.drop 1).reverse
  let extended := (text.reverse.takeWhile (· ≠ '-')).reverse
  if text.all (·.toNat < 0x80) ∧ (basic ≠ [] ∨ '-' ∉ text) then
    insertions? extended.length extended 0x80 0 72 basic
  else
    none

end ElementSearch.Url.Punycode
