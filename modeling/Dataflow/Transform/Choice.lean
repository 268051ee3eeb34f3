import Dataflow.Transform

/-!
# Choice of columns

Transforms that keep, drop or declare columns by name.
-/

namespace Dataflow.Transform

/-- The columns with given names, in the order of the names. -/
def chosen (incoming : List Column) (names : List String) : List Column :=
  names.map (Column.findOrAny incoming)

/-- The columns without those that have given names. -/
def without (incoming : List Column) (names : List String) : List Column :=
  incoming.filter fun column => !names.contains column.name

/-- Keep the named columns. -/
def selectColumns : Transform := fun inputs values schema =>
  let incoming := inputs.on "frame"
  match knownNames incoming values "columns" with
  | .error cause => .error cause
  | .ok names => .ok (publish schema (chosen incoming names))

/-- Drop the named columns. -/
def dropColumns : Transform := fun inputs values schema =>
  let incoming := inputs.on "frame"
  match knownNames incoming values "columns" with
  | .error cause => .error cause
  | .ok names => .ok (publish schema (without incoming names))

/-- Apply a function of the user. Its columns are those that the user declares, or those that come
in if none are declared. -/
def customCode : Transform := fun inputs values schema =>
  let incoming := inputs.on "frame"
  match namesIn values "columns" with
  | .error cause => .error cause
  | .ok names =>
    .ok (publish schema (if names.isEmpty then incoming else chosen incoming names))

end Dataflow.Transform
