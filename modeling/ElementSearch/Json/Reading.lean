import ElementSearch.Json.Token

/-!
# Reading JSON

A JSON text is read token by token with a stack of the lists and tables that are still open, so the
depth of nesting is not limited here; readers of the result limit what they take from it.
-/

namespace ElementSearch.Json

/-- A list or table that is still open. Items and entries are in reverse order; a table keeps the key
whose value comes next. -/
inductive Frame where
  | list (items : List Datum)
  | table (entries : List (Option String × Datum)) (key : Option String)

/-- What may come next. -/
inductive Expectation where
  | value
  | valueOrClose
  | key
  | keyOrClose
  | colon
  | separator

/-- How far the reading of a text has come. -/
inductive Progress where
  | within (stack : List Frame) (expected : Expectation)
  | finished (value : Datum)

/-- The table with the entries in reverse order. A key that stands for no text makes it unreadable. -/
def tableOf (entries : List (Option String × Datum)) : Datum :=
  match entries.reverse.mapM fun (key, value) => key.map (·, value) with
  | some entries => .table entries
  | none => .unreadable

/-- Puts a complete value where it belongs. -/
def deliver (value : Datum) : List Frame → Progress
  | [] => .finished value
  | .list items :: stack => .within (.list (value :: items) :: stack) .separator
  | .table entries key :: stack => .within (.table ((key, value) :: entries) none :: stack) .separator

/-- Takes a token with which a value starts. -/
def startValue? (stack : List Frame) : Token → Option Progress
  | .simple value => some (deliver value stack)
  | .string text => some (deliver (text.elim .unreadable .text) stack)
  | .openList => some (.within (.list [] :: stack) .valueOrClose)
  | .openTable => some (.within (.table [] none :: stack) .keyOrClose)
  | _ => none

/-- Takes a token that closes the innermost list or table. -/
def close? : List Frame → Token → Option Progress
  | .list items :: stack, .closeList => some (deliver (.list items.reverse) stack)
  | .table entries _ :: stack, .closeTable => some (deliver (tableOf entries) stack)
  | _, _ => none

/-- Takes the key of an entry. -/
def startPair? : List Frame → Token → Option Progress
  | .table entries _ :: stack, .string key => some (.within (.table entries key :: stack) .colon)
  | _, _ => none

/-- Takes the next token. -/
def Progress.next? : Progress → Token → Option Progress
  | .finished _, _ => none
  | .within stack .value, token => startValue? stack token
  | .within stack .valueOrClose, token => close? stack token <|> startValue? stack token
  | .within stack .key, token => startPair? stack token
  | .within stack .keyOrClose, token => close? stack token <|> startPair? stack token
  | .within stack .colon, .colon => some (.within stack .value)
  | .within _ .colon, _ => none
  | .within (.list items :: stack) .separator, .comma => some (.within (.list items :: stack) .value)
  | .within (.table entries key :: stack) .separator, .comma =>
    some (.within (.table entries key :: stack) .key)
  | .within stack .separator, token => close? stack token

/-- The value that a JSON text writes. -/
def read? (text : String) : Option Datum := do
  match ← (← tokens? text).foldlM Progress.next? (.within [] .value) with
  | .finished value => some value
  | .within _ _ => none

end ElementSearch.Json
