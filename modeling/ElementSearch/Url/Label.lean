import ElementSearch.Text.Composed
import ElementSearch.Url.LabelTable

/-!
# Labels of domain names

What a label has to keep to beyond the choice of its characters: it does not start with a mark, it has
joiners only where they show, and in a name with text from right to left each label has one direction
from its start to its end. Labels are tested as they are displayed.
-/

namespace ElementSearch.Url

open Text

/-- Whether a character is a combining mark. -/
def isMark (character : Char) : Bool :=
  inRanges nonspacingRanges character || inRanges spacingRanges character

/-- A character that asks the letters beside it to be joined, or not to be. -/
def isJoiner (character : Char) : Bool :=
  character == '\u200c' || character == '\u200d'

/-- Whether a character suppresses the vowel of the consonant before it. -/
def isVirama (character : Char) : Bool :=
  combiningClass character == 9

/-- Whether letters join through a character. -/
def isTransparent (character : Char) : Bool :=
  inRanges nonspacingRanges character || inRanges transparentRanges character

/-- Whether the first character through which letters do not join is in one of the ranges. -/
def reaches (ranges : List (Nat × Nat)) (text : List Char) : Bool :=
  ((text.dropWhile isTransparent).head?).any (inRanges ranges)

/-- Whether a joiner may stand between `before`, read backwards, and `after`. Behind a virama any joiner
may; elsewhere only the one that keeps letters apart, and only between letters that would join. -/
def joinerShows (joiner : Char) (before after : List Char) : Bool :=
  before.head?.any isVirama ||
    (joiner == '\u200c' && reaches (dualJoiningRanges ++ leftJoiningRanges) before &&
      reaches (dualJoiningRanges ++ rightJoiningRanges) after)

/-- Whether all joiners of a text may stand where they do, behind `before`, read backwards. -/
def joinersShow (before : List Char) : List Char → Bool
  | [] => true
  | character :: after =>
    (!isJoiner character || joinerShows character before after) &&
      joinersShow (character :: before) after

/-- The direction in which a character is written. -/
inductive Direction where
  | leftToRight
  | rightToLeft
  | europeanDigit
  | arabicDigit
  /-- A mark, which goes with the character that it stands on. -/
  | mark
  | neutral
  deriving DecidableEq

/-- The direction of a character that can stand in a domain name. -/
def Direction.of (character : Char) : Direction :=
  if inRanges rightToLeftRanges character then .rightToLeft
  else if inRanges europeanDigitRanges character then .europeanDigit
  else if inRanges arabicDigitRanges character then .arabicDigit
  else if inRanges nonspacingRanges character then .mark
  else if inRanges neutralRanges character then .neutral
  else .leftToRight

/-- Whether a character makes the name that it stands in one with text from right to left. -/
def Direction.isTurned : Direction → Bool
  | .rightToLeft | .arabicDigit => true
  | _ => false

/-- Whether the directions in a label agree with that of its first character. A label from left to right
holds nothing from right to left, and ends in a letter or a European digit; one from right to left
holds nothing from left to right, does not mix the two kinds of digits, and ends in a letter or a digit.
Marks at the end do not count. -/
def agrees : List Direction → Bool
  | [] => true
  | .leftToRight :: rest =>
    let last := ((rest.reverse.dropWhile (· == .mark)).head?).getD .leftToRight
    rest.all (· ∉ [.rightToLeft, .arabicDigit]) && last ∈ [.leftToRight, .europeanDigit]
  | .rightToLeft :: rest =>
    let last := ((rest.reverse.dropWhile (· == .mark)).head?).getD .rightToLeft
    rest.all (· ≠ .leftToRight) && last ∈ [.rightToLeft, .europeanDigit, .arabicDigit] &&
      !(rest.contains .europeanDigit && rest.contains .arabicDigit)
  | _ => false

/-- Whether the labels of a name have directions that can be displayed without doubt. A name without
text from right to left always has. -/
def directionsAgree (labels : List (List Char)) : Bool :=
  labels.all (·.all fun character => !(Direction.of character).isTurned) ||
    labels.all fun label => agrees (label.map Direction.of)

/-- The number of characters that a label with characters above ASCII may have. -/
def longestLabel : Nat := 1000

/-- Whether a label is well formed by itself. -/
def isWellFormed (label : List Char) : Bool :=
  !label.head?.any isMark && joinersShow [] label && label.length ≤ longestLabel

end ElementSearch.Url
