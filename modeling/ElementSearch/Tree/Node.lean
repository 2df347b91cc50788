import ElementSearch.Text.Ascii
import ElementSearch.Text.Pattern
import ElementSearch.Text.Pixels

/-!
# Nodes and what is known about them

The kinds of node that a document tree has, and the values a host can report for one: reflected
properties, the part of its computed style that decides visibility, and its layout boxes.
-/

namespace ElementSearch

open Text

/-- What a node is. A handle that names no node counts as `other`. -/
inductive NodeKind where
  | document
  | element
  | text
  | other
  deriving DecidableEq

/-- The value of a reflected property. Attributes are always text; a layout measure is a number. -/
inductive PropertyValue where
  | text (value : String)
  | number (value : Float)

/-- A text property satisfies a pattern as text does. A numeric one equals the integer that the
pattern starts with; a pattern without one, such as any wildcard, it never satisfies. -/
def PropertyValue.satisfies (pattern : String) : PropertyValue → Bool
  | .text value => Text.satisfies value pattern
  | .number value => (Pixels.leadingInteger pattern).any (value == ·)

/-- The computed style of an element, as far as it decides visibility. -/
structure Style where
  display : String
  visibility : String
  deriving DecidableEq

/-- The style of an element about which nothing is known. -/
def Style.unset : Style := ⟨"", ""⟩

/-- A style shows its element unless `display` is `none` or `visibility` is `hidden`. -/
def Style.isVisible (style : Style) : Bool :=
  !sameIgnoringAsciiCase style.display "none" &&
    !sameIgnoringAsciiCase style.visibility "hidden"

/-- A bounding box in pixels. -/
structure Rect where
  x : Float
  y : Float
  width : Float
  height : Float

/-- The size of an element's client area in pixels. -/
structure Size where
  width : Float
  height : Float

end ElementSearch
