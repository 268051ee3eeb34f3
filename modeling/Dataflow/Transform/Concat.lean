import Dataflow.Transform

/-!
# Stacking

Two frames on top of each other have the columns of the first, then those that only the second has.
A column whose types differ holds objects.
-/

namespace Dataflow.Transform

/-- The type of a column whose values have several types. -/
def mixedType : String := "object"

/-- A column as it is after another frame is put below. -/
def stackColumn (below : List Column) (column : Column) : Column :=
  match Column.find? below column.name with
  | some other =>
    if other.typeLabel ≠ column.typeLabel then { column with typeLabel := mixedType } else column
  | none => column

/-- The columns of two frames on top of each other. -/
def stack (first second : List Column) : List Column :=
  first.map (stackColumn second)
    ++ second.filter fun column => !Column.named first column.name

/-- Put two frames on top of each other. -/
def concat : Transform := fun inputs _ schema =>
  .ok (publish schema (stack (inputs.on "first") (inputs.on "second")))

end Dataflow.Transform
