import ElementSearch.Toml.Value

/-!
# TOML documents

A document is read statement by statement into nested tables. A header opens a table once; a table that
only deeper headers named before may still be opened, and a double header adds a row to an array of
tables. Dotted keys add to tables that dotted keys made, but to none that a header opened.
-/

namespace ElementSearch.Toml

/-- What stands under a key while a document is read. -/
inductive Item where
  | value (datum : Datum)
  /-- A table. It is implied if no header has opened it, and dotted if dotted keys made it. -/
  | table (implied dotted : Bool) (entries : List (String × Item))
  /-- An array of tables that double headers open. -/
  | rows (tables : List (List (String × Item)))

/-- Replaces what stands under a key. -/
def replaceEntry (key : String) (item : Item) (entries : List (String × Item)) :
    List (String × Item) :=
  entries.map fun entry => if entry.1 = key then (key, item) else entry

/-- Changes the table at the end of a path. Tables that are missing on the way are implied; in an array of
tables the path goes on in the last row. -/
def changeAt? (change : List (String × Item) → Option (List (String × Item))) :
    List String → List (String × Item) → Option (List (String × Item))
  | [], entries => change entries
  | key :: path, entries =>
    match entries.lookup key with
    | none => (changeAt? change path []).map fun inner => entries ++ [(key, .table true false inner)]
    | some (.value _) => none
    | some (.table implied dotted inner) =>
      (changeAt? change path inner).map fun changed =>
        replaceEntry key (.table implied dotted changed) entries
    | some (.rows rows) => do
      let changed ← changeAt? change path (← rows.getLast?)
      some (replaceEntry key (.rows (rows.dropLast ++ [changed])) entries)

/-- Opens a table under a key. -/
def openTable? (key : String) (entries : List (String × Item)) : Option (List (String × Item)) :=
  match entries.lookup key with
  | none => some (entries ++ [(key, .table false false [])])
  | some (.table true false inner) => some (replaceEntry key (.table false false inner) entries)
  | some _ => none

/-- Adds a row to the array of tables under a key. -/
def openRow? (key : String) (entries : List (String × Item)) : Option (List (String × Item)) :=
  match entries.lookup key with
  | none => some (entries ++ [(key, .rows [[]])])
  | some (.rows rows) => some (replaceEntry key (.rows (rows ++ [[]])) entries)
  | some _ => none

/-- Adds a value under a dotted key. A path of several parts has to end in a table that dotted keys
made; `admitted` says whether the table that is reached is one, or the path is a single key. -/
def insertAt? (value : Datum) : (admitted : Bool) → List String → List (String × Item) →
    Option (List (String × Item))
  | _, [], _ => none
  | admitted, [key], entries =>
    if admitted ∧ (entries.lookup key).isNone then some (entries ++ [(key, .value value)]) else none
  | _, key :: path, entries =>
    match entries.lookup key with
    | none =>
      (insertAt? value true path []).map fun inner => entries ++ [(key, .table true true inner)]
    | some (.value _) => none
    | some (.table implied dotted inner) =>
      if implied then
        (insertAt? value dotted path inner).map fun changed =>
          replaceEntry key (.table implied dotted changed) entries
      else
        none
    | some (.rows rows) => do
      let changed ← insertAt? value false path (← rows.getLast?)
      some (replaceEntry key (.rows (rows.dropLast ++ [changed])) entries)

mutual

/-- The value that an item has come to. -/
def Item.toDatum : Item → Datum
  | .value datum => datum
  | .table _ _ entries => .table (Item.entryData entries)
  | .rows tables => .list (Item.rowData tables)

/-- The values that items have come to, under the same keys. -/
def Item.entryData : List (String × Item) → List (String × Datum)
  | [] => []
  | (key, item) :: rest => (key, item.toDatum) :: Item.entryData rest

/-- The tables that the rows of an array have come to. -/
def Item.rowData : List (List (String × Item)) → List Datum
  | [] => []
  | entries :: rest => .table (Item.entryData entries) :: Item.rowData rest

end

/-- The tables read so far, and the path of the one that is open. -/
structure Reading where
  root : List (String × Item)
  path : List String

/-- What follows a statement on its line has to be blank or a comment. Gives the text from the line break
on. -/
def endOfLine? (text : List Char) : Option (List Char) :=
  match text.dropWhile isSpace with
  | [] => some []
  | '#' :: rest => afterComment? rest
  | rest => if (dropLineBreak? rest).isSome then some rest else none

/-- Reads a header behind its opening brackets. -/
def header? (reading : Reading) (isRow : Bool) (text : List Char) :
    Option (Reading × List Char) := do
  let (path, rest) ← key? text
  let after ← match isRow, rest with
    | false, ']' :: after => some after
    | true, ']' :: ']' :: after => some after
    | _, _ => none
  let last ← path.getLast?
  let opened := if isRow then openRow? last else openTable? last
  let root ← changeAt? opened path.dropLast reading.root
  some (⟨root, path⟩, ← endOfLine? after)

/-- Reads a key with its value. -/
def keyValue? (reading : Reading) (text : List Char) : Option (Reading × List Char) := do
  let (path, rest) ← key? text
  match rest with
  | '=' :: rest =>
    let (value, rest) ← value? (rest.length + 1) maxNesting (rest.dropWhile isSpace)
    let root ← changeAt? (insertAt? value true path) reading.path reading.root
    some ({ reading with root }, ← endOfLine? rest)
  | _ => none

/-- Reads a number of statements. -/
def statementsWithin? : Nat → Reading → List Char → Option Reading
  | 0, _, _ => none
  | limit + 1, reading, text => do
    match ← afterTrivia? text with
    | [] => some reading
    | '[' :: '[' :: rest =>
      let (reading, rest) ← header? reading true rest
      statementsWithin? limit reading rest
    | '[' :: rest =>
      let (reading, rest) ← header? reading false rest
      statementsWithin? limit reading rest
    | start =>
      let (reading, rest) ← keyValue? reading start
      statementsWithin? limit reading rest

/-- The table that a document writes. A byte order mark in front of it does not count. -/
def read? (text : String) : Option Datum := do
  let characters := match text.toList with
    | '\ufeff' :: rest => rest
    | characters => characters
  let reading ← statementsWithin? (characters.length + 1) ⟨[], []⟩ characters
  some (Item.table false false reading.root).toDatum

end ElementSearch.Toml
