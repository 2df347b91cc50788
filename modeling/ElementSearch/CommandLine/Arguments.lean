/-!
# Arguments of a command line

The words of a command line are read as flags, options with a value, and operands. Long names follow two
dashes, a value perhaps behind `=`; several short names may share one dash. Two dashes alone end the
options.
-/

namespace ElementSearch.CommandLine

/-- What stands behind the name of an option. -/
inductive OptionKind where
  /-- Nothing: the option is a flag. -/
  | flag
  | text
  /-- A path, which is not empty. -/
  | path
  deriving DecidableEq

/-- A flag, or an option with a value, that a command knows. -/
structure OptionName where
  long : String
  short : Option Char
  kind : OptionKind

/-- One thing that the words of a command line say. -/
inductive Argument where
  | flag (name : String)
  | option (name value : String)
  | operand (word : String)
  /-- Something that the command does not know, or that is incomplete or has a value that does not fit. -/
  | unknown
  deriving DecidableEq

/-- What a word says by itself: some arguments, and perhaps the option whose value is the next word. -/
structure Word where
  arguments : List Argument
  awaiting : Option OptionName

/-- A word that is complete. -/
def Word.complete (arguments : List Argument) : Word := ⟨arguments, none⟩

/-- The option with a value, if the value fits. -/
def OptionName.withValue (option : OptionName) (value : String) : Argument :=
  match option.kind with
  | .flag => .unknown
  | .text => .option option.long value
  | .path => if value = "" then .unknown else .option option.long value

/-- Whether a word is made of dashes and names. A dash alone is an operand. -/
def isOptionWord (word : String) : Bool :=
  match word.toList with
  | '-' :: _ :: _ => true
  | _ => false

section Reading

variable (known : List OptionName)

/-- Reads a long name, which may carry a value. -/
def longWord (text : List Char) : Word :=
  let name := String.ofList (text.takeWhile (· ≠ '='))
  match known.find? (·.long == name), text.dropWhile (· ≠ '=') with
  | none, _ => .complete [.unknown]
  | some option, [] => if option.kind = .flag then .complete [.flag name] else ⟨[], some option⟩
  | some option, _ :: value => .complete [option.withValue (String.ofList value)]

/-- The value that stands in the same word as a short name, perhaps behind `=`. -/
def attachedValue : List Char → String
  | '=' :: value => String.ofList value
  | value => String.ofList value

/-- Reads short names one by one. The first one with a value takes the rest of the word. -/
def shortWord : List Char → Word
  | [] => .complete []
  | letter :: rest =>
    match known.find? (·.short == some letter) with
    | none => .complete [.unknown]
    | some option =>
      if option.kind = .flag then
        let further := shortWord rest
        ⟨.flag option.long :: further.arguments, further.awaiting⟩
      else if rest = [] then
        ⟨[], some option⟩
      else
        .complete [option.withValue (attachedValue rest)]

/-- Reads a word that is not the end of the options. -/
def readWord (word : String) : Word :=
  match word.toList with
  | '-' :: '-' :: text => longWord known text
  | '-' :: letter :: rest => shortWord known (letter :: rest)
  | _ => .complete [.operand word]

/-- Reads the words of a command line. A word that is made of dashes and names is no value. -/
def readWords : List String → List Argument
  | [] => []
  | [word] =>
    if word = "--" then []
    else
      let ⟨arguments, awaiting⟩ := readWord known word
      arguments ++ (if awaiting.isSome then [.unknown] else [])
  | word :: next :: rest =>
    if word = "--" then (next :: rest).map .operand
    else
      let ⟨arguments, awaiting⟩ := readWord known word
      match awaiting with
      | none => arguments ++ readWords (next :: rest)
      | some option =>
        arguments ++
          (if isOptionWord next then [.unknown] else option.withValue next :: readWords rest)

end Reading

/-- The operands among arguments. -/
def operands (arguments : List Argument) : List String :=
  arguments.filterMap fun
    | .operand word => some word
    | _ => none

/-- The value of an option. -/
def optionValue? (arguments : List Argument) (name : String) : Option String :=
  arguments.findSome? fun
    | .option given value => if given = name then some value else none
    | _ => none

/-- Whether a flag is among arguments. -/
def hasFlag (arguments : List Argument) (name : String) : Bool :=
  arguments.contains (.flag name)

end ElementSearch.CommandLine
