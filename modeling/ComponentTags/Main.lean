/-
# The command line

Reads the file of the template, prints what the command says, and reports failures on the error
stream.
-/
import ComponentTags.CommandLine.Basic

namespace ComponentTags.CommandLine

/-- The content of a file, if there is one. -/
def fileContent? (path : Text) : IO (Option Text) := do
  try
    return some (← IO.FS.readFile (String.ofList path)).toList
  catch _ => return none

/-- Reports a failure. -/
def report (message : Text) (code : UInt32) : IO UInt32 := do
  IO.eprintln ("Error: " ++ String.ofList message)
  return code

/-- Runs the program with the arguments of the command line. -/
def runProgram (arguments : List Text) : IO UInt32 := do
  match Invocation.read arguments with
  | .error e => report e.message 2
  | .ok i =>
    let content ← i.path?.elim (return none) fileContent?
    match run i content with
    | .ok text =>
      IO.print (String.ofList text)
      return 0
    | .error (.usage e) => report e.message 2
    | .error (.template e) => report e.message 1

end ComponentTags.CommandLine

/-- The program. -/
def main (arguments : List String) : IO UInt32 :=
  ComponentTags.CommandLine.runProgram (arguments.map String.toList)
