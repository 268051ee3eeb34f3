import Dataflow.Json

/-!
# Schemas

The static description of a kind of node: its ports, its parameters, the template of its code, and
for a source where its columns come from. Names are looked up in order of declaration, so the first
of two declarations with one name counts.
-/

namespace Dataflow

/-- A named place where data enters or leaves a node. -/
structure Port where
  /-- The name of the port. -/
  name : String
  /-- The label of the type of its data, which nothing checks. -/
  typeLabel : String
  /-- Whether an input must be connected before the node can run. -/
  required : Bool
  deriving DecidableEq, Inhabited

/-- What a parameter takes its value from. -/
inductive Role where
  /-- The input port of the same name. -/
  | input
  /-- The output port of the same name. -/
  | output
  /-- The values of the node. -/
  | plain
  deriving DecidableEq, Inhabited

/-- A parameter of a node. -/
structure Parameter where
  /-- The name of the parameter. -/
  name : String
  /-- The label of the type of its value, which nothing checks. -/
  typeLabel : String
  /-- The value where the node holds none. -/
  fallback : Json
  /-- What the parameter takes its value from. -/
  role : Role
  /-- Its place in displays, lower first. -/
  priority : Option Int32
  deriving Inhabited

/-- What a kind of node does with columns. -/
inductive Category where
  /-- Fetches columns from outside. -/
  | source
  /-- Computes columns from its inputs. -/
  | transform
  /-- Takes data and passes none on. -/
  | sink
  /-- Has no algorithm yet. -/
  | free
  deriving DecidableEq, Inhabited

/-- How the code of a node is made. -/
inductive Template where
  /-- A text with a placeholder in braces for each name. -/
  | flat (text : String)
  /-- A call of a function with named arguments. -/
  | call (function : String)
  deriving DecidableEq, Inhabited

/-- Where a source gets its columns from. -/
inductive FetchSource where
  /-- A file whose path a parameter holds. -/
  | file (parameter : String)
  /-- A variable of the environment whose name a parameter holds. -/
  | variable (parameter : String)
  deriving DecidableEq, Inhabited

/-- The parameter that holds the path or the name. -/
def FetchSource.parameter : FetchSource → String
  | .file parameter => parameter
  | .variable parameter => parameter

/-- How a source gets its columns. -/
structure Fetch where
  /-- Where the columns come from. -/
  source : FetchSource
  /-- The parameter that names the columns used as the index of rows. -/
  indexParameter : Option String
  deriving DecidableEq, Inhabited

/-- The static description of a kind of node. -/
structure Schema where
  /-- The name of the algorithm. -/
  id : String
  /-- What the node does with columns. -/
  category : Category
  /-- The name shown to users. -/
  label : String
  /-- The input ports. -/
  inputs : List Port
  /-- The output ports. -/
  outputs : List Port
  /-- The parameters. -/
  parameters : List Parameter
  /-- How the code is made. -/
  template : Template
  /-- How a source gets its columns. -/
  fetch : Option Fetch
  deriving Inhabited

/-- The place of a category among the others in lists. -/
def Category.rank : Category → Nat
  | .source => 0
  | .transform => 1
  | .sink => 2
  | .free => 3

namespace Port

/-- An input that must be connected. -/
def needed (name typeLabel : String) : Port := { name, typeLabel, required := true }

/-- A port that may stay unconnected. -/
def optional (name typeLabel : String) : Port := { name, typeLabel, required := false }

/-- The names of ports. -/
def names (ports : List Port) : List String := ports.map Port.name

end Port

namespace Parameter

/-- A parameter that the user sets. -/
def plain (name typeLabel : String) (fallback : Json) : Parameter :=
  { name, typeLabel, fallback, role := .plain, priority := none }

/-- The same parameter with a place in displays. -/
def withPriority (parameter : Parameter) (priority : Int32) : Parameter :=
  { parameter with priority := some priority }

/-- The place of a parameter without a priority, after all that have one. -/
def lastPriority : Int32 := Int32.maxValue

/-- The place of a parameter in displays. -/
def rank (parameter : Parameter) : Int32 := parameter.priority.getD lastPriority

end Parameter

namespace Schema

/-- The name of the algorithm of a node that has none yet. -/
def unassignedId : String := "unassigned"

/-- The schema of a node that has no algorithm yet. -/
def unassigned : Schema where
  id := unassignedId
  category := .free
  label := unassignedId
  inputs := []
  outputs := []
  parameters := []
  template := .flat ""
  fetch := none

/-- The first input port with a name. -/
def input? (schema : Schema) (name : String) : Option Port :=
  schema.inputs.find? fun port => port.name == name

/-- The first output port with a name. -/
def output? (schema : Schema) (name : String) : Option Port :=
  schema.outputs.find? fun port => port.name == name

/-- The first parameter with a name. -/
def parameter? (schema : Schema) (name : String) : Option Parameter :=
  schema.parameters.find? fun parameter => parameter.name == name

/-- The names of the output ports. -/
def outputNames (schema : Schema) : List String := Port.names schema.outputs

/-- The names of the input ports. -/
def inputNames (schema : Schema) : List String := Port.names schema.inputs

/-- The input ports that must be connected. -/
def requiredInputs (schema : Schema) : List Port := schema.inputs.filter Port.required

/-- Whether a name is declared as a parameter or as an input, so that a node may hold a value for
it. -/
def takesValue (schema : Schema) (name : String) : Bool :=
  (schema.parameter? name).isSome || (schema.input? name).isSome

/-- The parameters in the order of displays: by priority, and by declaration where that is equal. -/
def parametersByPriority (schema : Schema) : List Parameter :=
  schema.parameters.mergeSort fun a b => a.rank ≤ b.rank

end Schema

end Dataflow
