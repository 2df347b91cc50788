/-!
# Letter case within ASCII

Folding that touches the letters `A` to `Z` only. Attribute names, tag names and style keywords are
compared this way; ids, classes and values use the full mapping of `Text.lowercase`.
-/

namespace ElementSearch.Text

/-- The text with the letters `A` to `Z` made small. -/
def asciiLowercase (text : String) : String :=
  String.ofList (text.toList.map Char.toLower)

/-- The text with the letters `a` to `z` made capital. -/
def asciiUppercase (text : String) : String :=
  String.ofList (text.toList.map Char.toUpper)

/-- Equality up to the case of ASCII letters. -/
def sameIgnoringAsciiCase (left right : String) : Bool :=
  asciiLowercase left == asciiLowercase right

/-- Folding a text folds its characters one by one. -/
theorem toList_asciiLowercase (text : String) :
    (asciiLowercase text).toList = text.toList.map Char.toLower := by
  simp [asciiLowercase]

theorem sameIgnoringAsciiCase_refl (text : String) : sameIgnoringAsciiCase text text := by
  simp [sameIgnoringAsciiCase]

end ElementSearch.Text
