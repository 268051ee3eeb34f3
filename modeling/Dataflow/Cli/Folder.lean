import Dataflow.Dictionary

/-!
# Folders in memory

A folder of text files. Files are known by their path, and a folder exists as long as a file is in
it. A path is a list of steps; it can be followed only through folders that exist, and only as long
as it and the names in it are not too long.

A path that begins with a slash leads out of the folder. There only the devices are known, which are
not files but take or give text.
-/

namespace Dataflow

/-- The text files of a folder, by path. -/
structure Folder where
  /-- The files. -/
  files : Dictionary String

/-- What reading a file gives. -/
inductive FileText where
  /-- The text of the file. -/
  | content (text : String)
  /-- There is nothing under this path. -/
  | missing
  /-- There is something that cannot be read as a file. -/
  | unreadable

/-- The devices outside the folder. -/
inductive Device where
  /-- It is always empty, and takes every text. -/
  | empty
  /-- It never comes to an end, and takes every text. -/
  | endless
  /-- It prints every text. -/
  | output
  /-- It never comes to an end, and takes the empty text only. -/
  | full
  /-- It neither gives nor takes a text. -/
  | closed

namespace Device

/-- The device with a name. -/
def named? : String → Option Device
  | "null" | "stdin" => some .empty
  | "zero" | "random" | "urandom" | "stderr" => some .endless
  | "stdout" => some .output
  | "full" => some .full
  | "tty" => some .closed
  | _ => none

/-- The name of the folder of the devices. -/
def folderName : List Char := "dev".toList

/-- The device at the end of some steps from the root. -/
def at? : List (List Char) → Option Device
  | [folder, name] => if folder = folderName then named? (String.ofList name) else none
  | _ => none

/-- Whether there is a folder at the end of some steps from the root. -/
def hasFolder (steps : List (List Char)) : Bool := steps.isEmpty || steps == [folderName]

end Device

/-- Why a path cannot be followed. -/
inductive Obstacle where
  /-- Something on the way does not exist. -/
  | missing
  /-- Something on the way is no folder, or a name is too long. -/
  | blocked

namespace Obstacle

/-- What reading gives behind an obstacle. -/
def fileText : Obstacle → FileText
  | .missing => .missing
  | .blocked => .unreadable

end Obstacle

/-- Where a path leads. -/
inductive Place where
  /-- To the end of these steps in the folder, whether or not something is there. -/
  | inside (steps : List (List Char))
  /-- To the end of these steps from the root. -/
  | outside (steps : List (List Char))

namespace Folder

/-- The number of bytes that a name can have. -/
def nameLimit : Nat := 255

/-- The number of bytes that a path can have. -/
def pathLimit : Nat := 4095

/-- The steps of a path. -/
def stepsOf (path : String) : List (List Char) :=
  path.toList.splitOn '/'

/-- A path from the top, from its steps. -/
def pathOf (steps : List (List Char)) : String := String.ofList (['/'].intercalate steps)

/-- A folder with some files, given by paths that lead down from the top. -/
def ofFiles (files : Dictionary String) : Folder :=
  ⟨.ofList (files.entries.map fun (path, text) =>
    (pathOf ((stepsOf path).filter fun step => step ≠ [] ∧ step ≠ ['.']), text))⟩

/-- Whether there is a folder at the end of some steps. -/
def hasFolder (folder : Folder) (steps : List (List Char)) : Bool :=
  steps.isEmpty || folder.files.keys.any fun key =>
    let inner := stepsOf key
    steps.isPrefixOf inner && inner.length > steps.length

/-- Whether there is a file at the end of some steps. -/
def hasFile (folder : Folder) (steps : List (List Char)) : Bool :=
  folder.files.contains (pathOf steps)

/-- The steps to the folder around a place, given what lies above the top. -/
def parentOf (above : Except Obstacle (List (List Char))) (reached : List (List Char)) :
    Except Obstacle (List (List Char)) :=
  if reached.isEmpty then above else .ok reached.dropLast

/-- Follow steps from a place that was reached, given as its own steps. -/
def follow (isFile isFolder : List (List Char) → Bool)
    (above : Except Obstacle (List (List Char))) (reached : List (List Char)) :
    List (List Char) → Except Obstacle (List (List Char))
  | [] => .ok reached
  | step :: rest =>
    if isFile reached then .error .blocked
    else if !isFolder reached then .error .missing
    else if step.isEmpty || step == ['.'] then follow isFile isFolder above reached rest
    else if step == ['.', '.'] then
      (parentOf above reached).bind fun parent => follow isFile isFolder above parent rest
    else if (String.ofList step).utf8ByteSize > nameLimit then .error .blocked
    else follow isFile isFolder above (reached ++ [step]) rest

/-- Where a path leads. Nothing is known about what lies above the folder; above the root there is
the root itself. -/
def locate (folder : Folder) (path : String) : Except Obstacle Place :=
  if path.utf8ByteSize > pathLimit then .error .blocked
  else match path.toList with
    | [] => .error .missing
    | '/' :: _ =>
      (follow (fun steps => (Device.at? steps).isSome) Device.hasFolder (.ok []) []
        (stepsOf path)).map .outside
    | _ => (follow folder.hasFile folder.hasFolder (.error .missing) [] (stepsOf path)).map .inside

/-- The text of a file. -/
def read (folder : Folder) (path : String) : FileText :=
  match folder.locate path with
  | .error obstacle => obstacle.fileText
  | .ok (.inside steps) =>
    match folder.files.get? (pathOf steps) with
    | some text => .content text
    | none => if folder.hasFolder steps then .unreadable else .missing
  | .ok (.outside steps) =>
    match Device.at? steps with
    | some .empty => .content ""
    | some _ => .unreadable
    | none => if Device.hasFolder steps then .unreadable else .missing

/-- Write a file. The folder that it goes into must exist. Also gives what is printed. -/
def write? (folder : Folder) (path text : String) : Option (Folder × String) :=
  match folder.locate path with
  | .error _ => none
  | .ok (.inside steps) =>
    if folder.hasFolder steps then none
    else some (⟨folder.files.insert (pathOf steps) text⟩, "")
  | .ok (.outside steps) =>
    match Device.at? steps with
    | some .empty | some .endless => some (folder, "")
    | some .output => some (folder, text)
    | some .full => if text.toList.isEmpty then some (folder, "") else none
    | some .closed | none => none

end Folder

end Dataflow
