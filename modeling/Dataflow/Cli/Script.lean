import Dataflow.Cli.Folder
import Dataflow.Text.Terminal

/-!
# Scripts

A script says what a command asks of its surroundings: to read or write a file, to print a text, and
in the end how the command went. It can be carried out on a folder in memory.
-/

namespace Dataflow

/-- How a command went. -/
inductive Ending where
  /-- All went well. -/
  | done
  /-- The command failed, with this message in the log. -/
  | failed (message : String)
  /-- The arguments make no sense. -/
  | usage
  /-- The command broke off, with this message. -/
  | broken (message : String)
  deriving DecidableEq

/-- What a command asks for, step by step. -/
inductive Script where
  /-- End. -/
  | finish (ending : Ending)
  /-- Print a text. -/
  | print (text : String) (next : Script)
  /-- Read a file. -/
  | readFile (path : String) (next : FileText → Script)
  /-- Write a file, and learn whether that worked. -/
  | writeFile (path text : String) (next : Bool → Script)

/-- What a script has done. -/
structure Transcript where
  /-- How the command went. -/
  ending : Ending
  /-- All that was printed. -/
  printed : String
  /-- The files at the end. -/
  folder : Folder

namespace Script

/-- A text whose lines are indented, the first one apart. -/
def indented (text : List Char) : List Char :=
  text.flatMap fun c => if c = '\n' then '\n' :: List.replicate 4 ' ' else [c]

/-- A message as the log shows it: its lines are indented, and orders to a terminal are left out. -/
def logged (message : String) : String :=
  String.ofList (Text.Terminal.visible (indented message.toList))

/-- End with a failure, whose message goes to the log. -/
def fail (message : String) : Script := .finish (.failed (logged message))

/-- Carry out a script on a folder in memory, after some text was printed. -/
def run : Script → String → Folder → Transcript
  | .finish ending, printed, folder => ⟨ending, printed, folder⟩
  | .print text next, printed, folder => next.run (printed ++ text) folder
  | .readFile path next, printed, folder => (next (folder.read path)).run printed folder
  | .writeFile path text next, printed, folder =>
    match folder.write? path text with
    | some (changed, shown) => (next true).run (printed ++ shown) changed
    | none => (next false).run printed folder

end Script

/-- The number that a command ends with. -/
def Ending.exitCode : Ending → UInt32
  | .done => 0
  | .failed _ => 1
  | .usage => 2
  | .broken _ => 101

end Dataflow
