import Dataflow.Transform

/-!
# Renaming

All columns are renamed at once, so names can be swapped. No two columns may end up with one name.
-/

namespace Dataflow.Transform

/-- Read the entries of a mapping as pairs of an old and a new name. -/
def readRenames : List (String × Json) → Except TransformError (List (String × String))
  | [] => .ok []
  | (old, .string new) :: rest =>
    match readRenames rest with
    | .ok renames => .ok ((old, new) :: renames)
    | .error cause => .error cause
  | (old, _) :: _ => .error (.notNewName old)

/-- The old and new names among the values. -/
def renamesIn (values : Values) : Except TransformError (List (String × String)) :=
  match values.get? "mapping" with
  | none | some .null => .ok []
  | some (.object fields) => readRenames fields
  | some _ => .error (.notMapping "mapping")

/-- A column with its new name, if it has one. -/
def renameColumn (renames : List (String × String)) (column : Column) : Column :=
  { column with name := (renames.lookup column.name).getD column.name }

/-- The first name that an earlier column has, given the names seen so far. -/
def repeated? (seen : List String) : List Column → Option String
  | [] => none
  | column :: rest =>
    if seen.contains column.name then some column.name else repeated? (column.name :: seen) rest

/-- Rename columns. -/
def renameColumns : Transform := fun inputs values schema => do
  let incoming := inputs.on "frame"
  let renames ← renamesIn values
  ensureKnown incoming (renames.map Prod.fst)
  let renamed := incoming.map (renameColumn renames)
  match repeated? [] renamed with
  | some name => .error (.duplicateColumn name)
  | none => .ok (publish schema renamed)

end Dataflow.Transform
