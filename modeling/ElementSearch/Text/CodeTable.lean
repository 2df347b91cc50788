import ElementSearch.Text.Digit

/-!
# Tables of code points

Properties of characters are kept as text. A table consists of words with blanks between them; a word
names a code point, a range of them, or a sequence of them in hexadecimal, and may give a value behind
a mark. A property that is a set of characters is a list of ranges.
-/

namespace ElementSearch.Text

/-- The words of a table. -/
def tableWords (text : String) : List (List Char) :=
  (text.toList.splitOnP Char.isWhitespace).filter (· ≠ [])

/-- The parts of a word before and behind a mark. -/
def splitAtMark (mark : Char) (word : List Char) : List Char × List Char :=
  (word.takeWhile (· ≠ mark), (word.dropWhile (· ≠ mark)).drop 1)

/-- A range of code points: the first and the last one with a hyphen between them, or a single one. -/
def codeRange (word : List Char) : Nat × Nat :=
  match word.splitOn '-' with
  | [first, last] => (numeral 16 first, numeral 16 last)
  | _ => (numeral 16 word, numeral 16 word)

/-- A sequence of code points with plus signs between them. -/
def codeSequence (word : List Char) : List Nat :=
  (word.splitOn '+').map (numeral 16)

/-- Whether a code point lies in a range. -/
def inRange (range : Nat × Nat) (code : Nat) : Bool :=
  range.1 ≤ code && code ≤ range.2

/-- Whether a character lies in one of the ranges. -/
def inRanges (ranges : List (Nat × Nat)) (character : Char) : Bool :=
  ranges.any fun range => inRange range character.toNat

end ElementSearch.Text
