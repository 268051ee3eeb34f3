import Dataflow.Transform.Choice

/-!
# Grouping

Grouped rows have the columns that they are grouped by, then one column for each aggregation.
-/

namespace Dataflow.Transform

/-- The entries of the mapping from columns to the functions that aggregate them. -/
def aggregationsIn (values : Values) : Except TransformError (List (String × Json)) :=
  match values.get? "aggregations" with
  | none | some .null => .ok []
  | some (.object fields) => .ok fields
  | some _ => .error (.notMapping "aggregations")

/-- Functions that count. -/
def countingFunctions : List String := ["count", "size", "nunique"]

/-- Functions that compute a mean or a deviation. -/
def averagingFunctions : List String := ["mean", "median", "std", "var"]

/-- The type of an aggregated column, given the column that it comes from. -/
def aggregatedType (function : String) (source : Option Column) : String :=
  if countingFunctions.contains function then "int64"
  else if averagingFunctions.contains function then "float64"
  else (source.map Column.typeLabel).getD anyType

/-- A column for each aggregation. -/
def aggregated (incoming : List Column) :
    List (String × Json) → Except TransformError (List Column)
  | [] => .ok []
  | (name, .string function) :: rest =>
    if !incoming.isEmpty && !Column.named incoming name then .error (.unknownColumn name)
    else match aggregated incoming rest with
      | .error cause => .error cause
      | .ok columns =>
        let typeLabel := aggregatedType function (Column.find? incoming name)
        .ok ({ name, typeLabel } :: columns)
  | (name, _) :: _ => .error (.notFunction name)

/-- Group rows and aggregate columns. -/
def groupBy : Transform := fun inputs values schema => do
  let incoming := inputs.on "frame"
  let keys ← knownNames incoming values "by"
  let aggregations ← aggregationsIn values
  let columns ← aggregated incoming aggregations
  return publish schema (chosen incoming keys ++ columns)

end Dataflow.Transform
