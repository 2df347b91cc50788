import ElementSearch.Json.Reading
import ElementSearch.Snapshot.Basic

/-!
# Reading snapshots

A snapshot is read from JSON. Unknown keys are passed over. What the snapshot is made of may be nested
`maxNesting` lists and tables deep, which also bounds the depth of the page that is read. A child is a
text if it can be read as one, and else an element; to find out which, it is read to its last detail, so
nothing inside a child may be unreadable.
-/

namespace ElementSearch

/-- The number of lists and tables that may be nested in a snapshot. -/
def maxNesting : Nat := 127

namespace Snapshot

/-- Reads a record of a snapshot, which is written no longer than its fields. -/
def record? (names : List String) (datum : Datum) : Option Fields :=
  datum.record? false names

/-- Reads a style. Both parts may be missing. -/
def style? (datum : Datum) : Option Style := do
  let fields ← record? ["display", "visibility"] datum
  let display ← fields.withDefault "display" "" Datum.text?
  let visibility ← fields.withDefault "visibility" "" Datum.text?
  some ⟨display, visibility⟩

/-- Reads a bounding box. Its place may be missing. -/
def rect? (datum : Datum) : Option Rect := do
  let fields ← record? ["x", "y", "width", "height"] datum
  let x ← fields.withDefault "x" 0.0 Datum.number?
  let y ← fields.withDefault "y" 0.0 Datum.number?
  let width ← fields.required "width" Datum.number?
  let height ← fields.required "height" Datum.number?
  some ⟨x, y, width, height⟩

/-- Reads a size. -/
def size? (datum : Datum) : Option Size := do
  let fields ← record? ["width", "height"] datum
  let width ← fields.required "width" Datum.number?
  let height ← fields.required "height" Datum.number?
  some ⟨width, height⟩

/-- The last value of each key, in ascending order of the keys. -/
def sortedEntries (entries : List (String × String)) : List (String × String) :=
  let keys := (distinctKeys entries).mergeSort fun left right => !(right < left)
  keys.filterMap fun key => (entries.reverse.find? fun entry => entry.1 == key)
where
  /-- The keys without repetitions. -/
  distinctKeys (entries : List (String × String)) : List String :=
    (entries.map (·.1)).eraseDups

/-- Reads attributes: a table of texts, in which the last of equal keys counts. -/
def attributes? : Datum → Option (List (String × String))
  | .table entries => do
    let texts ← entries.mapM fun (key, value) => value.text?.map (key, ·)
    some (sortedEntries texts)
  | _ => none

/-- Reads a text between elements. It is written as a table, never as a list. -/
def textChild? : Datum → Option String
  | .table entries => do (← record? ["text"] (.table entries)).required "text" Datum.text?
  | _ => none

/-- Reads a list or a table where one more level of nesting is left. -/
def nested? {α : Type} (levels : Nat) (read : Datum → Option α) (datum : Datum) : Option α :=
  if levels = 0 then none else read datum

mutual

/-- Reads a page, nested within a number of levels. -/
def pageWithin? : (levels : Nat) → Datum → Option Snapshot
  | 0, _ => none
  | levels + 1, datum => do
    let fields ← record? ["base_url", "root"] datum
    let baseUrl ← fields.withDefault "base_url" none (Datum.optional? Datum.text?)
    let root ← fields.required "root" (elementWithin? levels)
    some (.mk baseUrl root)

/-- Reads an element, nested within a number of levels. Its children stand two levels further down. -/
def elementWithin? : (levels : Nat) → Datum → Option ElementSnapshot
  | 0, _ => none
  | levels + 1, datum => do
    let fields ← record?
      ["tag", "attributes", "style", "rect", "client", "children", "frame"] datum
    let tag ← fields.required "tag" Datum.text?
    let attributes ← fields.withDefault "attributes" [] (nested? levels attributes?)
    let style ← fields.withDefault "style" none (Datum.optional? (nested? levels style?))
    let rect ← fields.withDefault "rect" none (Datum.optional? (nested? levels rect?))
    let clientSize ← fields.withDefault "client" none (Datum.optional? (nested? levels size?))
    let children ← fields.withDefault "children" [] fun items =>
      match levels with
      | 0 => none
      | levels + 1 => do
        (← items.list?).mapM fun child =>
          if child.isReadableWithin levels then
            ((textChild? child).map .text) <|> ((elementWithin? levels child).map .element)
          else
            none
    let frame ← fields.withDefault "frame" none (Datum.optional? (pageWithin? levels))
    some (.mk ⟨tag, attributes, style, rect, clientSize⟩ children frame)

end

/-- Reads a page. -/
def read? (text : String) : Option Snapshot :=
  (Json.read? text).bind (pageWithin? maxNesting)

end Snapshot

end ElementSearch
