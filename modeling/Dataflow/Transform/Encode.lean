import Dataflow.Transform.Choice

/-!
# One-hot encoding

An encoded column becomes one column for each of its categories. The categories are only known once
there are data, so a single column stands for all of them. If no columns are named, all that hold
texts are encoded.
-/

namespace Dataflow.Transform

/-- The types of columns with categories. -/
def categoricalTypes : List String := ["object", "category", "string"]

/-- The names of the columns with categories. -/
def categoricalNames (incoming : List Column) : List String :=
  (incoming.filter fun column => categoricalTypes.contains column.typeLabel).map Column.name

/-- The column that stands for the categories of another. -/
def categoriesOf (name : String) : Column := { name := name ++ "_*", typeLabel := "bool" }

/-- Encode columns by their categories. -/
def oneHotEncode : Transform := fun inputs values schema =>
  let incoming := inputs.on "data"
  match knownNames incoming values "columns" with
  | .error cause => .error cause
  | .ok names =>
    let encoded := if names.isEmpty then categoricalNames incoming else names
    .ok (publish schema (without incoming encoded ++ encoded.map categoriesOf))

end Dataflow.Transform
