import ElementSearch.Text.Blank
import ElementSearch.Text.Digit

/-!
# Lengths in pixels

A length is written as an integer, perhaps with blanks before it and a unit behind it. Only the
integer at the start counts; what follows its digits is ignored, so `12.9` and `12em` are both 12.
-/

namespace ElementSearch.Pixels

open ElementSearch.Text

/-- The value of a sign and the digits behind it: the nearest double, infinite when the digits
exceed every double, and `-0.0` for a negative zero. -/
def signedValue (negative : Bool) (digits : List Char) : Float :=
  (if negative then -1.0 else 1.0) * Float.ofNat (numeral 10 digits)

/-- The integer that a text starts with, after blanks and a sign; none if no digit stands there. -/
def leadingInteger (text : String) : Option Float :=
  let (negative, unsigned) := splitSign (trimStart text.toList)
  match unsigned.takeWhile Char.isDigit with
  | [] => none
  | digits => some (signedValue negative digits)

/-- What precedes the last `px` of a text, if there is one. -/
def beforeLastUnit? : List Char → Option (List Char)
  | [] => none
  | character :: rest =>
    match beforeLastUnit? rest with
    | some before => some (character :: before)
    | none => if character = 'p' ∧ rest.head? = some 'x' then some [] else none

/-- The text cut at its last `px`, or all of it if it has none. -/
def withoutUnit (text : String) : String :=
  (beforeLastUnit? text.toList).elim text String.ofList

end ElementSearch.Pixels
