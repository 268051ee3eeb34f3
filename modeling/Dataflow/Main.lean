import Dataflow.Cli.Commands

/-!
# The command line

Carries out the script of a command line on the file system.
-/

namespace Dataflow

/-- Read a file. -/
def readText (path : String) : IO FileText := do
  try
    return .content (← IO.FS.readFile path)
  catch
    | .noFileOrDirectory .. => return .missing
    | _ => return .unreadable

/-- Write a file, and say whether that worked. -/
def writeText (path text : String) : IO Bool := do
  try
    IO.FS.writeFile path text
    return true
  catch _ => return false

/-- Carry out a script. -/
def Script.execute : Script → IO Ending
  | .finish ending => return ending
  | .print text next => do
    IO.print text
    next.execute
  | .readFile path next => do
    (next (← readText path)).execute
  | .writeFile path text next => do
    (next (← writeText path text)).execute

end Dataflow

/-- Run a command line. -/
def main (args : List String) : IO UInt32 := do
  let ending ← (Dataflow.commandLine args).execute
  match ending with
  | .failed message => IO.eprintln message
  | .broken message => IO.eprintln message
  | .usage => IO.eprintln "usage: pipeline [-c DIR] compile|status|propagate|describe ..."
  | .done => pure ()
  return ending.exitCode
