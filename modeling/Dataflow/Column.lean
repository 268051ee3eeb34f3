import Dataflow.Json.Parser
import Dataflow.Json.Record

/-!
# Columns

A column of a data frame has a name and a label for its type. Ports carry lists of columns.
-/

namespace Dataflow

/-- The label of a type that nothing is known about. -/
def anyType : String := "any"

/-- A column with the label of its type. -/
structure Column where
  /-- The name of the column. -/
  name : String
  /-- The label of its type. -/
  typeLabel : String
  deriving DecidableEq, Inhabited

/-- The columns on each port, by the name of the port. -/
abbrev PortColumns := Dictionary (List Column)

namespace Column

/-- Write a column. -/
def toJson (column : Column) : Json :=
  .object [("name", .string column.name), ("type", .string column.typeLabel)]

/-- Read a column. -/
def ofJson? (value : Json) : Option Column := do
  let record ← value.record? 2
  let name ← record.required 0 "name" Json.string?
  let typeLabel ← record.optional 1 "type" anyType Json.string?
  return { name, typeLabel }

/-- The fields of a column. -/
def shape : Json.Shape := .plain ["name", "type"]

/-- Read a column from a text. -/
def ofText? (text : String) : Option Column := (Json.parseAs shape text).bind ofJson?

/-- The first column with a name. -/
def find? (columns : List Column) (name : String) : Option Column :=
  columns.find? fun column => column.name == name

/-- Whether some column has a name. -/
def named (columns : List Column) (name : String) : Bool :=
  columns.any fun column => column.name == name

/-- The names of columns. -/
def names (columns : List Column) : List String := columns.map Column.name

end Column

/-- Write the columns on each port. -/
def PortColumns.toJson (columns : PortColumns) : Json :=
  Json.ofDictionary (fun list => .array (list.map Column.toJson)) columns

/-- Read the columns on each port. -/
def PortColumns.ofJson? (value : Json) : Option PortColumns :=
  Json.dictionaryOf (Json.listOf Column.ofJson?) value

/-- The fields of the columns on each port. -/
def PortColumns.shape : Json.Shape := .dictionaryOf (.listOf Column.shape)

end Dataflow
