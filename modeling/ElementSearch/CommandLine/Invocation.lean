import ElementSearch.CommandLine.Arguments
import ElementSearch.RuleSet.Definition

/-!
# Invocations

What a command line asks for: to locate the matches of a rule in a snapshot, to check a rule, or to run a
rule set. Help and version are asked for by flags, and what stands behind such a flag is not looked at.
-/

namespace ElementSearch.CommandLine

/-- What the program can do. -/
inductive Command where
  | locate (rule snapshot : String) (mode : Mode) (withFrames : Bool)
  | check (rule : String)
  | run (rules snapshot : String)
  deriving DecidableEq

/-- What a command line asks for. -/
inductive Invocation where
  | perform (command : Command)
  | version
  | help
  /-- The command line is not understood. -/
  | misuse
  deriving DecidableEq

/-- Detailed logging. It is accepted by every command and changes no answer. -/
def verboseOption : OptionName := ⟨"verbose", some 'v', .flag⟩

/-- The flag that asks for help. -/
def helpOption : OptionName := ⟨"help", some 'h', .flag⟩

/-- The flag that asks for the version. -/
def versionOption : OptionName := ⟨"version", some 'V', .flag⟩

/-- The options that may stand before a command. -/
def leadingOptions : List OptionName := [verboseOption, helpOption, versionOption]

/-- The options of `locate`. -/
def locateOptions : List OptionName :=
  [⟨"rule", some 'r', .text⟩, ⟨"snapshot", some 's', .path⟩, ⟨"all", some 'a', .flag⟩,
    ⟨"roots", none, .flag⟩, ⟨"frames", none, .flag⟩, verboseOption, helpOption]

/-- The options of `check`. -/
def checkOptions : List OptionName := [verboseOption, helpOption]

/-- The options of `run`. -/
def runOptions : List OptionName :=
  [⟨"rules", some 'r', .path⟩, ⟨"snapshot", some 's', .path⟩, verboseOption, helpOption]

/-- What arguments ask for by themselves, if not for a command: the first flag for help or version counts,
unless something unknown, something repeated, or more operands than there is room for stand before it. -/
def settled? (room : Nat) (seen : List String) : List Argument → Option Invocation
  | [] => none
  | .flag name :: rest =>
    if name = helpOption.long then some .help
    else if name = versionOption.long then some .version
    else if name ∈ seen then some .misuse
    else settled? room (name :: seen) rest
  | .option name _ :: rest =>
    if name ∈ seen then some .misuse else settled? room (name :: seen) rest
  | .operand _ :: rest =>
    match room with
    | 0 => some .misuse
    | room + 1 => settled? room seen rest
  | .unknown :: _ => some .misuse

/-- The mode that the flags of `locate` ask for. They exclude each other. -/
def locateMode? (arguments : List Argument) : Option Mode :=
  match hasFlag arguments "all", hasFlag arguments "roots" with
  | false, false => some .first
  | true, false => some .all
  | false, true => some .roots
  | true, true => none

/-- The command with a name and arguments, if they fit. -/
def command? (name : String) (arguments : List Argument) : Option Command :=
  match name, operands arguments with
  | "locate", [] => do
    let rule ← optionValue? arguments "rule"
    let snapshot ← optionValue? arguments "snapshot"
    let mode ← locateMode? arguments
    some (.locate rule snapshot mode (hasFlag arguments "frames"))
  | "check", [rule] => some (.check rule)
  | "run", [] => do
    let rules ← optionValue? arguments "rules"
    let snapshot ← optionValue? arguments "snapshot"
    some (.run rules snapshot)
  | _, _ => none

/-- The options of a command and the number of its operands, if there is one with the name. -/
def shapeOf? : String → Option (List OptionName × Nat)
  | "locate" => some (locateOptions, 0)
  | "check" => some (checkOptions, 1)
  | "run" => some (runOptions, 0)
  | _ => none

/-- What the words behind the name of the help command ask for: help on everything or on one command. -/
def readHelp : List String → Invocation
  | [] => .help
  | [name] => if name = helpOption.long ∨ (shapeOf? name).isSome then .help else .misuse
  | _ => .misuse

/-- What the words from the name of a command on ask for. -/
def readCommand : List String → Invocation
  | [] => .misuse
  | name :: words =>
    if name = helpOption.long then readHelp words
    else
      match shapeOf? name with
      | none => .misuse
      | some (options, room) =>
        let arguments := readWords options words
        (settled? room [] arguments).getD ((command? name arguments).elim .misuse .perform)

/-- Whether a word can stand before the name of a command. -/
def isLeading (word : String) : Bool :=
  isOptionWord word && word != "--"

/-- What a command line asks for. -/
def Invocation.read (words : List String) : Invocation :=
  let leading := readWords leadingOptions (words.takeWhile isLeading)
  (settled? 0 [] leading).getD (readCommand (words.dropWhile isLeading))

end ElementSearch.CommandLine
