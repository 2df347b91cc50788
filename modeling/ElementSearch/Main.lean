import ElementSearch.CommandLine.Commands

/-!
# The program

Reads the files that the command line names, and writes the answer to it.
-/

namespace ElementSearch

/-- Reads the bytes of a file. -/
def readFile (path : String) : IO (Except FileError ByteArray) := do
  try
    return .ok (← IO.FS.readBinFile path)
  catch error =>
    match error with
    | .noFileOrDirectory _ _ _ => return .error .missing
    | other => return .error (.other (toString other))

namespace CommandLine

/-- Answers a command line, and gives the code with which the program ends. -/
def answerWords (words : List String) : IO UInt32 := do
  let invocation := Invocation.read words
  let contents ← invocation.paths.mapM fun path => do return (path, ← readFile path)
  let terminal ← (← IO.getStdout).isTty
  let colored := wantsStyles (← IO.getEnv "CLICOLOR_FORCE") (← IO.getEnv "NO_COLOR")
    (← IO.getEnv "CLICOLOR") terminal
  let answer := invocation.answer colored (.ofContents contents)
  IO.print answer.output
  IO.eprint answer.errors
  return answer.code.toUInt32

end CommandLine

end ElementSearch

/-- The program. -/
def main (words : List String) : IO UInt32 :=
  ElementSearch.CommandLine.answerWords words
