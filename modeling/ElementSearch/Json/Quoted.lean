/-!
# Quoted text of JSON

The form in which a text is written as a JSON string: quotes, backslashes and controls are escaped, and
all else stands for itself.
-/

namespace ElementSearch.Json

/-- The digits of a small number as four hexadecimal digits. -/
def fourDigits (value : Nat) : List Char :=
  let digits := Nat.toDigits 16 value
  List.replicate (4 - digits.length) '0' ++ digits

/-- The form of a character inside a string. -/
def quotedCharacter (character : Char) : List Char :=
  match character with
  | '"' => ['\\', '"']
  | '\\' => ['\\', '\\']
  | '\x08' => ['\\', 'b']
  | '\x0c' => ['\\', 'f']
  | '\n' => ['\\', 'n']
  | '\r' => ['\\', 'r']
  | '\t' => ['\\', 't']
  | _ => if character < ' ' then ['\\', 'u'] ++ fourDigits character.toNat else [character]

/-- A text as a JSON string. -/
def quote (text : String) : String :=
  String.ofList (['"'] ++ text.toList.flatMap quotedCharacter ++ ['"'])

end ElementSearch.Json
