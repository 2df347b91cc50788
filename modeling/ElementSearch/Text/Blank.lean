/-!
# Blank characters

The characters with the Unicode property `White_Space`, which separate the words of a text. Words
are the non-empty pieces between blanks, so they hold no blank themselves and are never empty.
-/

namespace ElementSearch.Text

/-- A blank is a character with the Unicode property `White_Space`. -/
def isBlank (character : Char) : Bool :=
  let code := character.toNat
  (0x09 ≤ code && code ≤ 0x0d) || code == 0x20 || code == 0x85 || code == 0xa0 ||
    code == 0x1680 || (0x2000 ≤ code && code ≤ 0x200a) || code == 0x2028 || code == 0x2029 ||
    code == 0x202f || code == 0x205f || code == 0x3000

/-- The words of a text: its longest pieces without a blank, in order. -/
def words (text : String) : List String :=
  ((text.toList.splitOnP isBlank).filter (· ≠ [])).map String.ofList

/-- The text without the blanks it starts with. -/
def trimStart (text : List Char) : List Char :=
  text.dropWhile isBlank

/-- Whether a text consists of blanks only. -/
def isAllBlank (text : String) : Bool :=
  text.toList.all isBlank

theorem words_empty : words "" = [] := by
  decide

end ElementSearch.Text
