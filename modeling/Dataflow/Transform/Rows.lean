import Dataflow.Transform

/-!
# Transforms of rows

Transforms that choose or order rows keep all columns. Those that name columns check the names.
-/

namespace Dataflow.Transform

/-- Keep the rows that an expression accepts. -/
def filterRows : Transform := fun inputs _ schema => .ok (publish schema (inputs.on "frame"))

/-- Pass the columns on after a check of the names that a parameter lists. -/
def checkNames (parameter : String) : Transform := fun inputs values schema =>
  let incoming := inputs.on "frame"
  match knownNames incoming values parameter with
  | .error cause => .error cause
  | .ok _ => .ok (publish schema incoming)

/-- Order rows by columns. -/
def sortRows : Transform := checkNames "by"

/-- Drop rows without a value in some columns. -/
def dropMissing : Transform := checkNames "subset"

end Dataflow.Transform
