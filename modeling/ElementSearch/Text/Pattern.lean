import ElementSearch.Text.Lowercase

/-!
# Text patterns

A pattern is the value of a predicate. It stands for one text up to letter case, or, when it starts
with `~`, for every text that contains the rest of it.
-/

namespace ElementSearch.Text

/-- Whether a pattern asks for containment instead of equality. -/
def isWildcard (pattern : String) : Bool :=
  pattern.toList.head? == some '~'

/-- A text satisfies a pattern if their lowercase forms are equal, or, for a pattern that starts
with `~`, if the lowercase form of the rest occurs in that of the text. -/
def satisfies (text pattern : String) : Bool :=
  match pattern.toList with
  | '~' :: needle =>
    @decide (lowercase needle <:+: lowercase text.toList)
      (List.instDecidableIsInfixOfDecidableEq _ _)
  | exact => lowercase text.toList == lowercase exact

end ElementSearch.Text
