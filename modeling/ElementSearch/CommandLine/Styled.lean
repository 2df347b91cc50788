import ElementSearch.Text.Replace

/-!
# Styled text

Text for a terminal, with colors or without. A style is switched on before the text and off behind it;
where the text itself switches styles off, it is switched on again.
-/

namespace ElementSearch.CommandLine

open Text

/-- A color or weight of text. -/
inductive TextStyle where
  | bold
  | dimmed
  | red
  | green
  | yellow
  | cyan

namespace TextStyle

/-- The number that switches a style on. -/
def code : TextStyle → String
  | .bold => "1"
  | .dimmed => "2"
  | .red => "31"
  | .green => "32"
  | .yellow => "33"
  | .cyan => "36"

/-- What switches a style on. -/
def start (style : TextStyle) : List Char :=
  "\x1b[".toList ++ style.code.toList ++ ['m']

/-- What switches all styles off. -/
def stop : List Char := "\x1b[0m".toList

/-- A text in a style, if styles are wanted. -/
def apply (style : TextStyle) (colored : Bool) (text : String) : String :=
  if colored then
    String.ofList (style.start ++ replaceAll stop (stop ++ style.start) text.toList ++ stop)
  else
    text

end TextStyle

/-- Whether styles are wanted. A setting that is `0` is off, any other is on. Styles that are forced go
before styles that are refused, and both before what the terminal allows. -/
def wantsStyles (forced refused allowed : Option String) (isTerminal : Bool) : Bool :=
  if forced.any (· ≠ "0") then true
  else if refused.isSome then false
  else allowed.all (· ≠ "0") && isTerminal

/-- A text filled up with blanks to a number of characters. -/
def padded (width : Nat) (text : String) : String :=
  text ++ String.ofList (List.replicate (width - text.length) ' ')

end ElementSearch.CommandLine
