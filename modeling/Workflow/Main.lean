import Workflow.CommandLine

/-!
# The program

The program reads its arguments, its environment and one file, and leaves everything else to
`Workflow.CommandLine`.
-/

namespace Workflow

/-- The content of a file, if it can be read. -/
def readContent (path : String) : IO (Option Bytes) := do
  try
    return some (← IO.FS.readBinFile path).toList
  catch _ =>
    return none

/-- The file that the arguments name, if they ask for one. -/
def requestedPath (arguments : List String) (fallback : Option String) : Option String :=
  match CommandLine.read fallback none arguments with
  | .ok (.validate validation) => some validation.path
  | _ => none

end Workflow

open Workflow in
/-- Run the program. -/
def main (arguments : List String) : IO UInt32 := do
  let path ← IO.getEnv CommandLine.pathVariable
  let filter ← IO.getEnv CommandLine.filterVariable
  let environment (name : String) : Option String :=
    if name = CommandLine.pathVariable then path
    else if name = CommandLine.filterVariable then filter
    else none
  let content ←
    match requestedPath arguments path with
    | some file => readContent file
    | none => pure none
  let finished := CommandLine.run arguments environment fun _ => content
  IO.print finished.output
  match finished.message with
  | some message => IO.eprintln message
  | none =>
      match CommandLine.read path none arguments with
      | .error wrong => IO.eprintln ("error: " ++ wrong.message)
      | .ok _ => pure ()
  return finished.code.toUInt32
