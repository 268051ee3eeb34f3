import Dataflow.Column
import Dataflow.Schema
import Dataflow.Variable

/-!
# Nodes and edges

A node of a document: its schema, the values of its parameters, the variables of its output ports,
and the columns that the last pass found on its ports. An edge leads from an output to an input.
-/

namespace Dataflow

/-- What the last pass made of a node. -/
inductive PassStatus where
  /-- No pass has reached the node. -/
  | pending
  /-- The columns of the node are known. -/
  | ready
  /-- The columns of the node could not be found. -/
  | error (message : String)
  deriving DecidableEq, Inhabited

/-- The columns that the last pass found on the ports of a node. -/
structure Metadata where
  /-- The columns on the inputs. -/
  inputColumns : PortColumns
  /-- The columns on the outputs. -/
  outputColumns : PortColumns
  /-- What the pass made of the node. -/
  status : PassStatus
  deriving DecidableEq, Inhabited

/-- Metadata of a node that no pass has reached. -/
def Metadata.initial : Metadata := ⟨.empty, .empty, .pending⟩

/-- The values of parameters by name. -/
abbrev Values := Dictionary Json

/-- A node of a document. -/
structure Node where
  /-- The name of the node in its document. -/
  id : String
  /-- The number that the names of its variables begin with. -/
  ordinal : UInt32
  /-- The static description of the node. -/
  schema : Schema
  /-- The values of its parameters. -/
  values : Values
  /-- The variables of its output ports. -/
  bindings : List Binding
  /-- The columns that the last pass found. -/
  metadata : Metadata
  deriving Inhabited

/-- A connection from an output to an input. -/
structure Edge where
  /-- The name of the edge in its document. -/
  id : String
  /-- The node that the edge leaves. -/
  source : String
  /-- The output that the edge leaves. -/
  sourcePort : String
  /-- The node that the edge enters. -/
  target : String
  /-- The input that the edge enters. -/
  targetPort : String
  deriving DecidableEq, Inhabited

namespace Node

/-- A new node, with fresh variables and without values. -/
def create (id : String) (ordinal : UInt32) (schema : Schema) : Node where
  id := id
  ordinal := ordinal
  schema := schema
  values := .empty
  bindings := Variable.bindPorts ordinal schema.outputNames
  metadata := .initial

/-- The variable of an output port. -/
def binding? (node : Node) (port : String) : Option String :=
  (node.bindings.find? fun binding => binding.port == port).map Binding.name

/-- The value of a parameter: the one that the node holds, else that of the schema, else null. -/
def valueOrDefault (node : Node) (name : String) : Json :=
  match node.values.get? name with
  | some value => value
  | none => ((node.schema.parameter? name).map Parameter.fallback).getD .null

/-- The values of a node, with those of the schema where the node holds none. -/
def effectiveValues (node : Node) : Values :=
  node.schema.parameters.foldl (fun values parameter =>
    if values.contains parameter.name then values
    else values.insert parameter.name parameter.fallback) node.values

/-- Whether the variables belong to the output ports of the schema, in the same order. -/
def isBound (node : Node) : Bool :=
  node.bindings.map Binding.port == node.schema.outputNames

/-- The same node with fresh variables. -/
def rebind (node : Node) : Node :=
  { node with bindings := Variable.bindPorts node.ordinal node.schema.outputNames }

/-- The same node, with fresh variables if they do not belong to its output ports. -/
def ensureBound (node : Node) : Node := if node.isBound then node else node.rebind

/-- The same node with another number and with fresh variables. -/
def renumber (node : Node) (ordinal : UInt32) : Node := { node with ordinal }.rebind

/-- The same node with another schema. Values that the schema does not take are dropped, and what
the last pass found is forgotten. -/
def withSchema (node : Node) (schema : Schema) : Node :=
  { node with
    schema
    values := node.values.filterKeys schema.takesValue
    metadata := .initial }

end Node

end Dataflow
