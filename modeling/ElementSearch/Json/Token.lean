import ElementSearch.Data.Datum
import ElementSearch.Json.Number

/-!
# Tokens of JSON

The brackets, separators and simple values that a JSON text consists of. A string may hold escapes for
half a surrogate pair; it is written correctly then, but stands for no text.
-/

namespace ElementSearch.Json

open Text

/-- A token. -/
inductive Token where
  | openList
  | closeList
  | openTable
  | closeTable
  | comma
  | colon
  /-- A string with its text, if it stands for one. -/
  | string (text : Option String)
  /-- A value other than a string, a list or a table. -/
  | simple (value : Datum)

/-- A piece of a string: a character, or a code unit of UTF-16 that an escape names. -/
inductive Piece where
  | character (value : Char)
  | codeUnit (value : Nat)

/-- The character that an escape of one letter stands for. -/
def escaped? : Char → Option Char
  | '"' => some '"'
  | '\\' => some '\\'
  | '/' => some '/'
  | 'b' => some '\x08'
  | 'f' => some '\x0c'
  | 'n' => some '\n'
  | 'r' => some '\r'
  | 't' => some '\t'
  | _ => none

/-- The pieces of a string up to its closing quote, and what follows it. -/
def stringPieces? : List Char → Option (List Piece × List Char)
  | [] => none
  | '"' :: rest => some ([], rest)
  | '\\' :: 'u' :: first :: second :: third :: fourth :: rest => do
    let value ← numeral? 16 [first, second, third, fourth]
    let (pieces, after) ← stringPieces? rest
    some (.codeUnit value :: pieces, after)
  | '\\' :: letter :: rest => do
    let character ← escaped? letter
    let (pieces, after) ← stringPieces? rest
    some (.character character :: pieces, after)
  | character :: rest =>
    if character < ' ' ∨ character = '\\' then
      none
    else do
      let (pieces, after) ← stringPieces? rest
      some (.character character :: pieces, after)

/-- The text that pieces stand for. The code units of a surrogate pair make one character; half a pair
makes none. -/
def assemble? : List Piece → Option (List Char)
  | [] => some []
  | .character value :: rest => (assemble? rest).map (value :: ·)
  | .codeUnit high :: .codeUnit low :: rest =>
    if 0xd800 ≤ high ∧ high ≤ 0xdbff then
      if 0xdc00 ≤ low ∧ low ≤ 0xdfff then
        (assemble? rest).map (Char.ofNat (0x10000 + (high - 0xd800) * 0x400 + (low - 0xdc00)) :: ·)
      else
        none
    else if 0xdc00 ≤ high ∧ high ≤ 0xdfff then
      none
    else
      (assemble? (.codeUnit low :: rest)).map (Char.ofNat high :: ·)
  | .codeUnit value :: rest =>
    if 0xd800 ≤ value ∧ value ≤ 0xdfff then none
    else (assemble? rest).map (Char.ofNat value :: ·)

/-- The exponent at the start of a text, if there is one: its sign, its digits and what follows. -/
def exponent? (text : List Char) : Option (Bool × List Char × List Char) :=
  match text with
  | mark :: rest =>
    if mark = 'e' ∨ mark = 'E' then
      let (negative, unsigned) := splitSign rest
      match unsigned.takeWhile Char.isDigit with
      | [] => none
      | digits => some (negative, digits, unsigned.drop digits.length)
    else
      some (false, [], text)
  | [] => some (false, [], [])

/-- The fraction at the start of a text, if there is one: its digits and what follows. -/
def fraction? (text : List Char) : Option (List Char × List Char) :=
  match text with
  | '.' :: rest =>
    match rest.takeWhile Char.isDigit with
    | [] => none
    | digits => some (digits, rest.drop digits.length)
  | _ => some ([], text)

/-- The number at the start of a text and what follows it. A leading zero stands alone. -/
def number? (text : List Char) : Option (NumberText × List Char) := do
  let (negative, unsigned) : Bool × List Char :=
    match text with
    | '-' :: unsigned => (true, unsigned)
    | unsigned => (false, unsigned)
  let whole := match unsigned with
    | '0' :: _ => ['0']
    | _ => unsigned.takeWhile Char.isDigit
  if whole = [] then
    none
  else
    let (fraction, rest) ← fraction? (unsigned.drop whole.length)
    let (exponentNegative, exponent, rest) ← exponent? rest
    some (⟨negative, whole, fraction, exponentNegative, exponent⟩, rest)

/-- A text without a word that it starts with. -/
def dropWord? (word : String) (text : List Char) : Option (List Char) :=
  if word.toList.isPrefixOf text then some (text.drop word.length) else none

/-- The token at the start of a text, which is not blank, and what follows it. -/
def token? : List Char → Option (Token × List Char)
  | '[' :: rest => some (.openList, rest)
  | ']' :: rest => some (.closeList, rest)
  | '\x7b' :: rest => some (.openTable, rest)
  | '\x7d' :: rest => some (.closeTable, rest)
  | ',' :: rest => some (.comma, rest)
  | ':' :: rest => some (.colon, rest)
  | '"' :: rest => (stringPieces? rest).map fun (pieces, after) =>
    (.string ((assemble? pieces).map String.ofList), after)
  | text =>
    ((dropWord? "null" text).map fun rest => (.simple .null, rest)) <|>
    ((dropWord? "true" text).map fun rest => (.simple (.bool true), rest)) <|>
    ((dropWord? "false" text).map fun rest => (.simple (.bool false), rest)) <|>
    ((number? text).map fun (number, rest) =>
      (.simple (number.value?.elim .unreadable .number), rest))

/-- Whether a character may stand between tokens. -/
def isSpace (character : Char) : Bool :=
  character ∈ [' ', '\t', '\n', '\r']

/-- The tokens of a text, up to a number of them. -/
def tokensWithin? : Nat → List Char → Option (List Token)
  | limit, text =>
    match text.dropWhile isSpace, limit with
    | [], _ => some []
    | _, 0 => none
    | start, limit + 1 => do
      let (token, rest) ← token? start
      let tokens ← tokensWithin? limit rest
      some (token :: tokens)

/-- The tokens of a text, of which there are no more than characters. -/
def tokens? (text : String) : Option (List Token) :=
  tokensWithin? text.length text.toList

end ElementSearch.Json
