/-!
# Digits

The digits of bases up to sixteen, letters in either case, and the numbers that they write, perhaps behind
a sign.
-/

namespace ElementSearch.Text

/-- The value of a hexadecimal digit in either case. -/
def hexDigit? (character : Char) : Option Nat :=
  if character.isDigit then some (character.toNat - '0'.toNat)
  else if 'a' ≤ character.toLower ∧ character.toLower ≤ 'f' then
    some (character.toLower.toNat - 'a'.toNat + 10)
  else none

/-- The hexadecimal digit of a number below sixteen, letters in capitals. -/
def hexDigit (value : Nat) : Char :=
  if value < 10 then Char.ofNat ('0'.toNat + value) else Char.ofNat ('A'.toNat + value - 10)

/-- The value of a digit. -/
def digitValue (digit : Char) : Nat :=
  (hexDigit? digit).getD 0

/-- Whether a character is a digit in a base. -/
def isDigitIn (base : Nat) (character : Char) : Bool :=
  (hexDigit? character).any (· < base)

/-- The number that digits write in a base. -/
def numeral (base : Nat) (digits : List Char) : Nat :=
  digits.foldl (fun value digit => base * value + digitValue digit) 0

/-- The number that a text writes in a base, if it consists of digits. The empty text writes zero. -/
def numeral? (base : Nat) (text : List Char) : Option Nat :=
  if text.all (isDigitIn base) then some (numeral base text) else none

/-- Whether a text starts with a minus sign, and the text without its sign. -/
def splitSign : List Char → Bool × List Char
  | '-' :: unsigned => (true, unsigned)
  | '+' :: unsigned => (false, unsigned)
  | unsigned => (false, unsigned)

end ElementSearch.Text
