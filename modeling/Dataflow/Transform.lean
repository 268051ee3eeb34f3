import Dataflow.Column
import Dataflow.Error
import Dataflow.Node

/-!
# Column transforms

A column transform computes the columns on the outputs of a node from those on its inputs and from
the values of its parameters. This module holds the type and what all transforms share: the columns
on a port, lists of names among the values, and the check of names against columns.
-/

namespace Dataflow

/-- Columns on the outputs, from the columns on the inputs, the values and the schema of a node. -/
abbrev Transform := PortColumns → Values → Schema → Except TransformError PortColumns

/-- The same columns on every output of a schema. -/
def publish (schema : Schema) (columns : List Column) : PortColumns :=
  Dictionary.ofList (schema.outputs.map fun port => (port.name, columns))

/-- The columns on a port; none are known before a pass has found them. -/
def PortColumns.on (columns : PortColumns) (port : String) : List Column :=
  (columns.get? port).getD []

/-- The column with a name, or one of unknown type if there is none. -/
def Column.findOrAny (columns : List Column) (name : String) : Column :=
  (Column.find? columns name).getD { name, typeLabel := anyType }

namespace Transform

/-- Read the items of a list as names. -/
def readNames (parameter : String) : List Json → Except TransformError (List String)
  | [] => .ok []
  | .string name :: rest =>
    match readNames parameter rest with
    | .ok names => .ok (name :: names)
    | .error cause => .error cause
  | _ :: _ => .error (.notNames parameter)

/-- The names that the value of a parameter lists. An absent value lists none. -/
def namesIn (values : Values) (parameter : String) : Except TransformError (List String) :=
  match values.get? parameter with
  | none | some .null => .ok []
  | some (.array items) => readNames parameter items
  | some _ => .error (.notNames parameter)

/-- Fail at the first name that no column has. Nothing is checked while no columns are known. -/
def ensureKnown (columns : List Column) (names : List String) : Except TransformError Unit :=
  if columns.isEmpty then .ok ()
  else match names.find? fun name => !Column.named columns name with
    | some name => .error (.unknownColumn name)
    | none => .ok ()

/-- The names that a parameter lists, all of which must be among some columns. -/
def knownNames (columns : List Column) (values : Values) (parameter : String) :
    Except TransformError (List String) :=
  match namesIn values parameter with
  | .error cause => .error cause
  | .ok names =>
    match ensureKnown columns names with
    | .error cause => .error cause
    | .ok () => .ok names

end Transform

end Dataflow
