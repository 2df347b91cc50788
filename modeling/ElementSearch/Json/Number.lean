import ElementSearch.Text.Digit

/-!
# Numbers of JSON

The double that the text of a number stands for. The first nineteen or twenty digits are taken as an
integer of 64 bits and scaled by a power of ten in one operation, which is exact for short numbers
and may differ from the nearest double in the last place for long ones.
-/

namespace ElementSearch.Json

open Text

/-- The largest integer that leading digits are collected in. -/
def largestSignificand : Nat := 0xFFFFFFFFFFFFFFFF

/-- Puts digits behind a significand as long as it stays in range, and counts the digits that were
taken. -/
def collect : Nat → List Char → Nat × Nat
  | significand, [] => (significand, 0)
  | significand, digit :: digits =>
    let next := significand * 10 + digitValue digit
    if largestSignificand < next then
      (significand, 0)
    else
      let (result, taken) := collect next digits
      (result, taken + 1)

/-- A power of ten, rounded to the nearest double. -/
def powerOfTen (exponent : Nat) : Float :=
  Float.ofScientific 1 false exponent

/-- The largest exponent of a power of ten that is a double. -/
def largestExponent : Nat := 308

/-- A value times a power of ten. A power that is too small for a double is divided off in steps, of
which a value below 2^64 needs no more than three before it is zero. None stands for a result beyond
the doubles. -/
def scaled? : (steps : Nat) → Float → Int → Option Float
  | steps, value, exponent =>
    if exponent.natAbs ≤ largestExponent then
      let power := powerOfTen exponent.natAbs
      if exponent < 0 then
        some (value / power)
      else
        let product := value * power
        if product.isInf then none else some product
    else if value == 0.0 then
      some value
    else if 0 ≤ exponent then
      none
    else
      match steps with
      | 0 => some 0.0
      | steps + 1 => scaled? steps (value / powerOfTen largestExponent) (exponent + largestExponent)

/-- The parts of a number's text. -/
structure NumberText where
  negative : Bool
  whole : List Char
  fraction : List Char
  exponentNegative : Bool
  exponent : List Char

/-- The double that a number's text stands for, or none if it is beyond the doubles. -/
def NumberText.value? (number : NumberText) : Option Float :=
  let (whole, taken) := collect 0 number.whole
  let (significand, places) := collect whole number.fraction
  let written := numeral 10 number.exponent
  let exponent : Int :=
    (number.whole.length - taken : Nat) - (places : Int) +
      (if number.exponentNegative then -(written : Int) else written)
  (scaled? 4 (Float.ofNat significand) exponent).map fun value =>
    if number.negative then -value else value

end ElementSearch.Json
