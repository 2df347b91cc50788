import ElementSearch.Data.Datum
import ElementSearch.Text.Digit

/-!
# Simple values of TOML

Strings in their four forms, numbers, truth values, and dates with times. Numbers and dates are read to
find out whether they are written correctly; an integer has to fit into 64 bits.
-/

namespace ElementSearch.Toml

open Text

/-- Blanks inside a line. -/
def isSpace (character : Char) : Bool :=
  character == ' ' || character == '\t'

/-- A text without the line break that it starts with. -/
def dropLineBreak? : List Char → Option (List Char)
  | '\n' :: rest => some rest
  | '\r' :: '\n' :: rest => some rest
  | _ => none

/-- Whether a character can stand in a comment or a string without an escape. -/
def isPrintable (character : Char) : Bool :=
  character == '\t' || (' ' ≤ character && character ≠ '\x7f')

/-- The character whose code point hexadecimal digits write. -/
def codePoint? (digits : List Char) : Option Char := do
  let value ← numeral? 16 digits
  if value.isValidChar then some (Char.ofNat value) else none

/-- The character that an escape of one letter stands for. -/
def escaped? : Char → Option Char
  | 'b' => some '\x08'
  | 't' => some '\t'
  | 'n' => some '\n'
  | 'f' => some '\x0c'
  | 'r' => some '\r'
  | 'e' => some '\x1b'
  | '"' => some '"'
  | '\\' => some '\\'
  | _ => none

/-- A string in double quotes, behind the opening one, and what follows it. -/
def basicString? : List Char → Option (List Char × List Char)
  | [] => none
  | '"' :: rest => some ([], rest)
  | '\\' :: 'x' :: d1 :: d2 :: rest => do
    let character ← codePoint? [d1, d2]
    let (content, after) ← basicString? rest
    some (character :: content, after)
  | '\\' :: 'u' :: d1 :: d2 :: d3 :: d4 :: rest => do
    let character ← codePoint? [d1, d2, d3, d4]
    let (content, after) ← basicString? rest
    some (character :: content, after)
  | '\\' :: 'U' :: d1 :: d2 :: d3 :: d4 :: d5 :: d6 :: d7 :: d8 :: rest => do
    let character ← codePoint? [d1, d2, d3, d4, d5, d6, d7, d8]
    let (content, after) ← basicString? rest
    some (character :: content, after)
  | '\\' :: letter :: rest => do
    let character ← escaped? letter
    let (content, after) ← basicString? rest
    some (character :: content, after)
  | character :: rest =>
    if isPrintable character ∧ character ≠ '\\' then do
      let (content, after) ← basicString? rest
      some (character :: content, after)
    else
      none

/-- A string in three double quotes, behind the opening ones, and what follows it. Up to two quotes may
stand directly before the closing ones. While `trimming`, blanks and line breaks are passed over; a
backslash at the end of a line starts that. -/
def longBasicString? (trimming : Bool) : List Char → Option (List Char × List Char)
  | [] => none
  | '"' :: '"' :: '"' :: '"' :: '"' :: rest => some (['"', '"'], rest)
  | '"' :: '"' :: '"' :: '"' :: rest => some (['"'], rest)
  | '"' :: '"' :: '"' :: rest => some ([], rest)
  | '\\' :: 'x' :: d1 :: d2 :: rest => do
    let character ← codePoint? [d1, d2]
    let (content, after) ← longBasicString? false rest
    some (character :: content, after)
  | '\\' :: 'u' :: d1 :: d2 :: d3 :: d4 :: rest => do
    let character ← codePoint? [d1, d2, d3, d4]
    let (content, after) ← longBasicString? false rest
    some (character :: content, after)
  | '\\' :: 'U' :: d1 :: d2 :: d3 :: d4 :: d5 :: d6 :: d7 :: d8 :: rest => do
    let character ← codePoint? [d1, d2, d3, d4, d5, d6, d7, d8]
    let (content, after) ← longBasicString? false rest
    some (character :: content, after)
  | '\\' :: letter :: rest =>
    if (dropLineBreak? ((letter :: rest).dropWhile isSpace)).isSome then
      longBasicString? true (letter :: rest)
    else do
      let character ← escaped? letter
      let (content, after) ← longBasicString? false rest
      some (character :: content, after)
  | '\r' :: '\n' :: rest =>
    if trimming then
      longBasicString? true rest
    else do
      let (content, after) ← longBasicString? false rest
      some ('\r' :: '\n' :: content, after)
  | character :: rest =>
    if trimming ∧ (isSpace character ∨ character = '\n') then
      longBasicString? true rest
    else if (isPrintable character ∨ character = '\n') ∧ character ≠ '\\' then do
      let (content, after) ← longBasicString? false rest
      some (character :: content, after)
    else
      none

/-- The mark around strings without escapes. -/
def isApostrophe (character : Char) : Bool :=
  character.toNat == 0x27

/-- A string in apostrophes, behind the opening one, and what follows it. -/
def literalString? (text : List Char) : Option (List Char × List Char) :=
  let content := text.takeWhile fun character => isPrintable character && !isApostrophe character
  match text.drop content.length with
  | mark :: rest => if isApostrophe mark then some (content, rest) else none
  | [] => none

/-- A string in three apostrophes, behind the opening ones, and what follows it. Up to two apostrophes
may stand directly before the closing ones. -/
def longLiteralString? : List Char → Option (List Char × List Char)
  | [] => none
  | '\r' :: '\n' :: rest => do
    let (content, after) ← longLiteralString? rest
    some ('\r' :: '\n' :: content, after)
  | character :: rest =>
    let marks := (character :: rest).takeWhile isApostrophe
    if 3 ≤ marks.length then
      let kept := min 2 (marks.length - 3)
      some (marks.take kept, rest.drop (kept + 2))
    else if isPrintable character ∨ character = '\n' then do
      let (content, after) ← longLiteralString? rest
      some (character :: content, after)
    else
      none

/-- A text without the line break that it may start with. -/
def afterLineBreak (text : List Char) : List Char :=
  (dropLineBreak? text).getD text

/-- The string at the start of a text, if a string starts there: its content, if it is written
correctly, and what follows it. -/
def string? (text : List Char) : Option (Option (List Char × List Char)) :=
  match text with
  | '"' :: '"' :: '"' :: rest => some (longBasicString? false (afterLineBreak rest))
  | '"' :: rest => some (basicString? rest)
  | mark :: rest =>
    if isApostrophe mark then
      if (rest.take 2).length = 2 ∧ (rest.take 2).all isApostrophe then
        some (longLiteralString? (afterLineBreak (rest.drop 2)))
      else
        some (literalString? rest)
    else
      none
  | [] => none

/-- Digits with single underscores between them, without the underscores. -/
def digits? (isDigit : Char → Bool) (text : List Char) : Option (List Char) :=
  let groups := text.splitOn '_'
  if groups.all fun group => !group.isEmpty && group.all isDigit then some groups.flatten else none

/-- Decimal digits without a leading zero. -/
def wholeDigits? (text : List Char) : Option (List Char) := do
  let digits ← digits? Char.isDigit text
  if digits.head? = some '0' ∧ digits ≠ ['0'] then none else some digits

/-- An integer, which is decimal with a sign or in a base that its prefix names. -/
def integer? (text : List Char) : Option Int := do
  let value : Int ← match text with
    | '0' :: 'x' :: rest => (digits? (isDigitIn 16) rest).map fun digits =>
      (numeral 16 digits : Int)
    | '0' :: 'o' :: rest => (digits? (isDigitIn 8) rest).map fun digits =>
      (numeral 8 digits : Int)
    | '0' :: 'b' :: rest => (digits? (isDigitIn 2) rest).map fun digits =>
      (numeral 2 digits : Int)
    | _ =>
      let (negative, unsigned) := splitSign text
      (wholeDigits? unsigned).map fun digits =>
        if negative then -(numeral 10 digits : Int) else numeral 10 digits
  if -0x8000000000000000 ≤ value ∧ value < 0x8000000000000000 then some value else none

/-- A number with a fraction or an exponent, or one of the special values. -/
def float? (text : List Char) : Option Float := do
  let (negative, unsigned) := splitSign text
  let magnitude ←
    if unsigned = "inf".toList then some (1.0 / 0.0)
    else if unsigned = "nan".toList then some (0.0 / 0.0)
    else if unsigned.all (· ∉ ['.', 'e', 'E']) then none
    else
      let isMark := fun c : Char => c == 'e' || c == 'E'
      let mantissa := unsigned.takeWhile fun c => !isMark c
      let exponent ← match unsigned.drop mantissa.length with
        | [] => some (0 : Int)
        | _ :: written =>
          let (below, digits) := splitSign written
          (digits? Char.isDigit digits).map fun digits =>
            if below then -(numeral 10 digits : Int) else numeral 10 digits
      let whole ← wholeDigits? (mantissa.takeWhile (· ≠ '.'))
      let fraction ← match mantissa.dropWhile (· ≠ '.') with
        | [] => some []
        | _ :: digits => digits? Char.isDigit digits
      let places := exponent - fraction.length
      let value := Float.ofScientific (numeral 10 (whole ++ fraction)) (places < 0) places.natAbs
      if value.isInf then none else some value
  some (if negative then -magnitude else magnitude)

/-- The number that exactly `count` digits write. -/
def fixed? (count : Nat) (text : List Char) : Option Nat :=
  if text.length = count then numeral? 10 text else none

/-- The number of days of a month. -/
def daysIn (year month : Nat) : Nat :=
  if month = 2 then
    if year % 4 = 0 ∧ (year % 100 ≠ 0 ∨ year % 400 = 0) then 29 else 28
  else if month ∈ [4, 6, 9, 11] then 30 else 31

/-- Whether a text is a date. -/
def isDate (text : List Char) : Bool :=
  match text.splitOn '-' with
  | [year, month, day] =>
    match fixed? 4 year, fixed? 2 month, fixed? 2 day with
    | some year, some month, some day =>
      1 ≤ month && month ≤ 12 && 1 ≤ day && day ≤ daysIn year month
    | _, _, _ => false
  | _ => false

/-- Whether a text is a number of two digits up to a bound. -/
def isPair (bound : Nat) (text : List Char) : Bool :=
  (fixed? 2 text).any (· ≤ bound)

/-- Whether a text is a number of seconds, perhaps with a fraction. -/
def isSeconds (text : List Char) : Bool :=
  isPair 60 (text.takeWhile (· ≠ '.')) &&
    match text.dropWhile (· ≠ '.') with
    | [] => true
    | _ :: digits => !digits.isEmpty && digits.all Char.isDigit

/-- Whether a text is a time of day. The seconds may be missing. -/
def isTime (text : List Char) : Bool :=
  match text.splitOn ':' with
  | [hour, minute] => isPair 23 hour && isPair 59 minute
  | [hour, minute, seconds] => isPair 23 hour && isPair 59 minute && isSeconds seconds
  | _ => false

/-- Whether a text is a time of day with an offset. -/
def isOffsetTime (text : List Char) : Bool :=
  match text.getLast? with
  | some 'Z' | some 'z' => isTime text.dropLast
  | _ =>
    let isSign := fun c : Char => c == '+' || c == '-'
    match text.dropWhile fun c => !isSign c with
    | [] => false
    | _ :: offset =>
      isTime (text.takeWhile fun c => !isSign c) &&
        match offset.splitOn ':' with
        | [hour, minute] => isPair 23 hour && isPair 59 minute
        | _ => false

/-- Whether a text is a date, a time, or both. -/
def isMoment (text : List Char) : Bool :=
  isDate text || isTime text ||
    match text.drop 10 with
    | mark :: time =>
      isDate (text.take 10) && mark ∈ ['T', 't', ' '] && (isTime time || isOffsetTime time)
    | [] => false

/-- A date or time as data. It reads as a table with an entry of its own. -/
def moment (text : List Char) : Datum :=
  .table [("datetime", .text (String.ofList text))]

/-- Whether a character can stand in a value without quotes. -/
def isAtomCharacter (character : Char) : Bool :=
  character.isAlphanum || character ∈ ['+', '-', '_', '.', ':']

/-- The value without quotes at the start of a text, and what follows it. A date may be followed by a
space and a time. -/
def atom (text : List Char) : List Char × List Char :=
  let first := text.takeWhile isAtomCharacter
  let rest := text.drop first.length
  match rest with
  | ' ' :: digit :: _ =>
    if isDate first ∧ digit.isDigit then
      let time := (rest.drop 1).takeWhile isAtomCharacter
      (first ++ ' ' :: time, rest.drop (time.length + 1))
    else
      (first, rest)
  | _ => (first, rest)

/-- The value that a text without quotes writes. -/
def atomValue? (text : List Char) : Option Datum :=
  if text = "true".toList then some (.bool true)
  else if text = "false".toList then some (.bool false)
  else if isMoment text then some (moment text)
  else
    ((integer? text).map fun value => .number (Float.ofInt value)) <|> ((float? text).map .number)

end ElementSearch.Toml
