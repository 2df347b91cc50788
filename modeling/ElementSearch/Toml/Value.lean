import ElementSearch.Toml.Scalar

/-!
# Keys and values of TOML

Keys, arrays and inline tables. Arrays and inline tables may go over several lines, hold comments, and end
in a comma; they are nested at most `maxNesting` deep. In an inline table lines may be broken anywhere but
inside a key. It is closed: a dotted key adds to a table that dotted keys before it made, but to no other.
-/

namespace ElementSearch.Toml

/-- The number of arrays and inline tables that may be nested. -/
def maxNesting : Nat := 80

/-- Whether a character can stand in a key without quotes. -/
def isBareKeyCharacter (character : Char) : Bool :=
  character.isAlphanum || character == '_' || character == '-'

/-- The part of a key at the start of a text, and what follows it. -/
def keyPart? (text : List Char) : Option (String × List Char) :=
  match text with
  | '"' :: rest => (basicString? rest).map fun (key, after) => (String.ofList key, after)
  | mark :: rest =>
    if isApostrophe mark then
      (literalString? rest).map fun (key, after) => (String.ofList key, after)
    else
      match text.takeWhile isBareKeyCharacter with
      | [] => none
      | key => some (String.ofList key, text.drop key.length)
  | [] => none

/-- The dotted key at the start of a text, of a limited number of parts, and what follows it and the
blanks behind it. -/
def keyWithin? : Nat → List Char → Option (List String × List Char)
  | 0, _ => none
  | limit + 1, text => do
    let (part, rest) ← keyPart? (text.dropWhile isSpace)
    match rest.dropWhile isSpace with
    | '.' :: rest =>
      let (parts, after) ← keyWithin? limit rest
      some (part :: parts, after)
    | after => some ([part], after)

/-- The number of parts that a dotted key may have. -/
def maxKeyParts : Nat := 80

/-- The dotted key at the start of a text. -/
def key? (text : List Char) : Option (List String × List Char) :=
  keyWithin? maxKeyParts text

/-- What follows a comment, behind its mark. -/
def afterComment? (text : List Char) : Option (List Char) :=
  match text.dropWhile isPrintable with
  | [] => some []
  | rest => if (dropLineBreak? rest).isSome then some rest else none

/-- What follows blanks, line breaks and comments, of which there are no more than characters. -/
def afterTriviaWithin? : Nat → List Char → Option (List Char)
  | 0, text => some text
  | limit + 1, text =>
    match text with
    | '#' :: rest => (afterComment? rest).bind (afterTriviaWithin? limit)
    | character :: rest =>
      if isSpace character then
        afterTriviaWithin? limit rest
      else
        match dropLineBreak? text with
        | some after => afterTriviaWithin? limit after
        | none => some text
    | [] => some []

/-- What follows blanks, line breaks and comments. -/
def afterTrivia? (text : List Char) : Option (List Char) :=
  afterTriviaWithin? (text.length + 1) text

/-- A value of an inline table while the table is read: complete, or a table that dotted keys make. -/
inductive InlineItem where
  | complete (value : Datum)
  | dotted (entries : List (String × InlineItem))

/-- Adds a value under a dotted key. -/
def addInline? : List String → Datum → List (String × InlineItem) →
    Option (List (String × InlineItem))
  | [], _, _ => none
  | [key], value, entries =>
    if (entries.lookup key).isSome then none else some (entries ++ [(key, .complete value)])
  | key :: path, value, entries =>
    match entries.lookup key with
    | none => (addInline? path value []).map fun inner => entries ++ [(key, .dotted inner)]
    | some (.dotted inner) =>
      (addInline? path value inner).map fun changed =>
        entries.map fun entry => if entry.1 = key then (key, .dotted changed) else entry
    | some (.complete _) => none

mutual

/-- The value that an item has come to. -/
def InlineItem.toDatum : InlineItem → Datum
  | .complete value => value
  | .dotted entries => .table (InlineItem.entryData entries)

/-- The values that items have come to, under the same keys. -/
def InlineItem.entryData : List (String × InlineItem) → List (String × Datum)
  | [] => []
  | (key, item) :: rest => (key, item.toDatum) :: InlineItem.entryData rest

end

mutual

/-- The value at the start of a text, nested within a number of levels, and what follows it. -/
def value? : (limit levels : Nat) → List Char → Option (Datum × List Char)
  | 0, _, _ => none
  | limit + 1, levels, text =>
    match string? text with
    | some string => string.map fun (content, rest) => (.text (String.ofList content), rest)
    | none =>
      match text with
      | '[' :: rest =>
        match levels with
        | 0 => none
        | levels + 1 => do
          let (items, after) ← items? limit levels (← afterTrivia? rest)
          some (.list items, after)
      | '\x7b' :: rest =>
        match levels with
        | 0 => none
        | levels + 1 => do
          let (entries, after) ← entries? limit levels [] (← afterTrivia? rest)
          some ((InlineItem.dotted entries).toDatum, after)
      | _ =>
        let (written, rest) := atom text
        (atomValue? written).map (·, rest)

/-- The items of an array up to its closing bracket. -/
def items? : (limit levels : Nat) → List Char → Option (List Datum × List Char)
  | 0, _, _ => none
  | _ + 1, _, ']' :: rest => some ([], rest)
  | limit + 1, levels, text => do
    let (item, rest) ← value? limit levels text
    match ← afterTrivia? rest with
    | ',' :: rest =>
      let (items, after) ← items? limit levels (← afterTrivia? rest)
      some (item :: items, after)
    | ']' :: rest => some ([item], rest)
    | _ => none

/-- The entries of an inline table up to its closing brace, behind those before. -/
def entries? : (limit levels : Nat) → List (String × InlineItem) → List Char →
    Option (List (String × InlineItem) × List Char)
  | 0, _, _, _ => none
  | _ + 1, _, entries, '\x7d' :: rest => some (entries, rest)
  | limit + 1, levels, entries, text => do
    let (path, rest) ← key? text
    match ← afterTrivia? rest with
    | '=' :: rest =>
      let (value, rest) ← value? limit levels (← afterTrivia? rest)
      let entries ← addInline? path value entries
      match ← afterTrivia? rest with
      | ',' :: rest => entries? limit levels entries (← afterTrivia? rest)
      | '\x7d' :: rest => some (entries, rest)
      | _ => none
    | _ => none

end

end ElementSearch.Toml
