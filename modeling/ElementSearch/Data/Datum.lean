/-!
# Self-describing data

The values that data formats write: texts, numbers, lists and tables. A format may also write a value
that stands for nothing, such as a number beyond the doubles. It is kept as `unreadable`: a reader that
has no use for the value passes over it, one that needs it fails.
-/

namespace ElementSearch

/-- A value of a data format. The entries of a table are in the order of their text, repeated keys
included. -/
inductive Datum where
  | null
  | bool (value : Bool)
  | number (value : Float)
  | text (value : String)
  | list (items : List Datum)
  | table (entries : List (String × Datum))
  | unreadable

namespace Datum

/-- Whether a value can be read to its last detail, with lists and tables nested at most `levels`
deep. -/
def isReadableWithin : Nat → Datum → Bool
  | _, .null => true
  | _, .bool _ => true
  | _, .number _ => true
  | _, .text _ => true
  | _, .unreadable => false
  | levels + 1, .list items => items.all (isReadableWithin levels)
  | levels + 1, .table entries => entries.all fun (_, value) => isReadableWithin levels value
  | 0, .list _ => false
  | 0, .table _ => false

/-- The truth value, if it is one. -/
def bool? : Datum → Option Bool
  | .bool value => some value
  | _ => none

/-- The number, if it is one. -/
def number? : Datum → Option Float
  | .number value => some value
  | _ => none

/-- The text, if it is one. -/
def text? : Datum → Option String
  | .text value => some value
  | _ => none

/-- The items, if it is a list. -/
def list? : Datum → Option (List Datum)
  | .list items => some items
  | _ => none

/-- What `read` makes of a value that may also be null, which stands for none. -/
def optional? {α : Type} (read : Datum → Option α) : Datum → Option (Option α)
  | .null => some none
  | value => (read value).map some

end Datum

/-- The fields of a record that were given, by name. -/
abbrev Fields := String → Option Datum

namespace Fields

/-- A field that must be given. -/
def required {α : Type} (fields : Fields) (name : String) (read : Datum → Option α) : Option α :=
  (fields name).bind read

/-- A field with a value for the case that it is not given. -/
def withDefault {α : Type} (fields : Fields) (name : String) (default : α)
    (read : Datum → Option α) : Option α :=
  match fields name with
  | some value => read value
  | none => some default

end Fields

namespace Datum

/-- The entry of a table under a key. -/
def lookup? (entries : List (String × Datum)) (name : String) : Option Datum :=
  (entries.find? fun entry => entry.1 == name).map (·.2)

/-- The fields of a record with the given names. It may be written as a table, in which other keys are
passed over and no name is repeated, or as a list of its fields in order, the last of which may be
missing. Whether the list may go on behind the fields is up to the format. -/
def record? (surplus : Bool) (names : List String) : Datum → Option Fields
  | .table entries =>
    if names.all fun name => (entries.filter fun entry => entry.1 == name).length ≤ 1 then
      some (lookup? entries)
    else
      none
  | .list items =>
    if surplus ∨ items.length ≤ names.length then some (lookup? (names.zip items)) else none
  | _ => none

end Datum

end ElementSearch
