import Dataflow.Transform

/-!
# Joins

A join of two frames has the columns of the left one and then those of the right one that are not
keys. Where both sides have a column that is no key, each side gets a suffix of its own. Without
keys, all shared columns are keys.
-/

namespace Dataflow.Transform

/-- The kinds of joins. -/
def joinTypes : List String := ["inner", "left", "right", "outer", "cross"]

/-- A column with a suffix on its name. -/
def suffixed (suffix : String) (column : Column) : Column :=
  { column with name := column.name ++ suffix }

/-- The names that both sides have, in the order of the left one. -/
def sharedNames (left right : List Column) : List String :=
  (left.filter fun column => Column.named right column.name).map Column.name

/-- A column of the left side in the join. -/
def leftImage (keys : List String) (right : List Column) (column : Column) : Column :=
  if keys.contains column.name || !Column.named right column.name then column
  else suffixed "_x" column

/-- A column of the right side in the join. -/
def rightImage (left : List Column) (column : Column) : Column :=
  if Column.named left column.name then suffixed "_y" column else column

/-- The columns of a join with given keys. -/
def joined (keys : List String) (left right : List Column) : List Column :=
  left.map (leftImage keys right)
    ++ (right.filter fun column => !keys.contains column.name).map (rightImage left)

/-- Check the kind of a join. -/
def checkJoin (values : Values) : Except TransformError Unit :=
  match values.get? "how" with
  | some (.string how) =>
    if joinTypes.contains how then .ok () else .error (.unknownJoin joinTypes (some (.string how)))
  | other => .error (.unknownJoin joinTypes other)

/-- The keys of a join: those that are given, or all shared columns. -/
def joinKeys (left right : List Column) (values : Values) :
    Except TransformError (List String) :=
  match namesIn values "on" with
  | .error cause => .error cause
  | .ok names => .ok (if names.isEmpty then sharedNames left right else names)

/-- Join two frames. -/
def merge : Transform := fun inputs values schema => do
  let left := inputs.on "left"
  let right := inputs.on "right"
  checkJoin values
  let keys ← joinKeys left right values
  ensureKnown left keys
  ensureKnown right keys
  return publish schema (joined keys left right)

end Dataflow.Transform
