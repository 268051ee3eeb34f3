import Dataflow.Document
import Dataflow.Literal
import Dataflow.Names
import Dataflow.Text.Blank
import Dataflow.Text.Replace

/-!
# Listings

The code of a node is made from its template: placeholders are filled with literals, or a function
is called with a named argument for each input and parameter. The listing of a document is a header
followed by the code of its nodes in queue order; a document with a cycle has none.
-/

namespace Dataflow

/-- Choices about the text of a listing. -/
structure Layout where
  /-- The directory that holds the data sets. -/
  rootDir : Option String
  /-- The lines at the start of a listing. -/
  header : List String
  /-- Whether the result of a call is shown. -/
  preview : Bool
  deriving DecidableEq, Inhabited

namespace Node

/-- What a name takes its value from: what its parameter says, else the port with that name. -/
def roleOf (node : Node) (name : String) : Role :=
  match node.schema.parameter? name with
  | some parameter => parameter.role
  | none =>
    if (node.schema.input? name).isSome then .input
    else if (node.schema.output? name).isSome then .output
    else .plain

/-- Whether an input with this name must be connected. -/
def needsInput (node : Node) (name : String) : Bool :=
  (node.schema.input? name).any Port.required

/-- The value that a name stands for. A connected input stands for its variable and an unconnected
one that is required for nothing; an output stands for its own variable. -/
def resolve (node : Node) (entering : Dictionary String) (name : String) : Json :=
  match node.roleOf name with
  | .input =>
    match entering.get? name with
    | some variableName => .string variableName
    | none => if node.needsInput name then .null else node.valueOrDefault name
  | .output => Json.ofOption .string (node.binding? name)
  | .plain => node.valueOrDefault name

/-- The value of each parameter, in order of declaration. -/
def resolvedParameters (node : Node) (entering : Dictionary String) : List (String × Json) :=
  node.schema.parameters.map fun parameter =>
    (parameter.name, node.resolve entering parameter.name)

/-- The literal that a name stands for. -/
def literal (node : Node) (layout : Layout) (entering : Dictionary String) (name : String) :
    List Char :=
  Literal.parameter name layout.rootDir (node.resolve entering name)

/-- The names whose placeholders are filled: all parameters, then each port that is not among
them. -/
def placeholderNames (node : Node) : List String :=
  let parameters := node.schema.parameters.map Parameter.name
  parameters ++ (distinct (node.schema.inputNames ++ node.schema.outputNames)).filter fun name =>
    !parameters.contains name

end Node

namespace Listing

/-- The place of a name in a template. -/
def placeholder (name : String) : List Char := '\x7b' :: (name.toList ++ ['\x7d'])

/-- A template with the placeholders of some names filled one name after another. -/
def fill (literal : String → List Char) (names : List String) (template : List Char) : List Char :=
  names.foldl (fun text name => Text.replaceAll (placeholder name) (literal name) text) template

/-- The code of a node with a flat template. -/
def flatCode (node : Node) (layout : Layout) (entering : Dictionary String)
    (template : String) : List Char :=
  Text.trimEnd (fill (node.literal layout entering) node.placeholderNames template.toList)

/-- The names of the arguments of a call: all inputs, then each parameter that is no output and not
among them. -/
def argumentNames (schema : Schema) : List String :=
  let parameters := schema.parameters.filter fun parameter => parameter.role != .output
  schema.inputNames ++ (distinct (parameters.map Parameter.name)).filter fun name =>
    !schema.inputNames.contains name

/-- A named argument. -/
def argument (literal : String → List Char) (name : String) : List Char :=
  name.toList ++ '=' :: literal name

/-- A line that sets a variable. -/
def assignment (target value : List Char) : List Char := target ++ " = ".toList ++ value

/-- Lines that show a value without failing. -/
def previewLines (target : List Char) : List (List Char) :=
  ["try:".toList,
    "    print(".toList ++ target ++ ".head())".toList,
    "except Exception:".toList,
    "    try:".toList,
    "        print(".toList ++ target ++ ")".toList,
    "    except Exception:".toList,
    "        pass".toList]

/-- The variable that takes the result of a call: that of the only output, if it is an identifier,
else one from which all outputs are set. -/
def callTarget (node : Node) : String :=
  match node.bindings with
  | [only] => if Text.isIdentifier only.name then only.name else Variable.capture node.ordinal
  | _ => Variable.capture node.ordinal

/-- The lines that hand the result of a call on to the outputs. -/
def handOver (node : Node) : List (List Char) :=
  match node.bindings with
  | [only] =>
    if Text.isIdentifier only.name then []
    else [assignment only.name.toList (callTarget node).toList]
  | bindings =>
    bindings.map fun binding => assignment binding.name.toList (callTarget node).toList

/-- The code of a node with a call. -/
def callCode (node : Node) (layout : Layout) (entering : Dictionary String)
    (function : String) : List Char :=
  let arguments := (argumentNames node.schema).map (argument (node.literal layout entering))
  let call := function.toList ++ '(' :: (", ".toList.intercalate arguments ++ [')'])
  let target := (callTarget node).toList
  ['\n'].intercalate (assignment target call :: (handOver node
    ++ if layout.preview && !node.bindings.isEmpty then previewLines target else []))

/-- The code of a node, given the variables that enter its inputs. -/
def nodeText (node : Node) (layout : Layout) (entering : Dictionary String) : List Char :=
  match node.schema.template with
  | .flat template => flatCode node layout entering template
  | .call function => callCode node layout entering function

/-- The parts of a listing, given the order of the nodes. Nodes with blank code are left out. -/
def parts (document : Document) (layout : Layout) (order : List String) : List (List Char) :=
  let header := ['\n'].intercalate (layout.header.map String.toList)
  let texts := order.filterMap fun id => (document.node? id).map fun node =>
    nodeText node layout (document.enteringVariables id)
  (if layout.header.isEmpty then [] else [header])
    ++ texts.filter fun text => !Text.isBlankText text

/-- Parts with an empty line between them and the end of a line behind the last. -/
def join (parts : List (List Char)) : List Char :=
  if parts.isEmpty then [] else ['\n', '\n'].intercalate parts ++ ['\n']

/-- What stands in place of a listing where there is a cycle. -/
def cycleNotice : String := "# Error: cycle detected in pipeline graph; no code generated"

end Listing

namespace Document

/-- The code of a node. -/
def nodeCode (document : Document) (layout : Layout) (id : String) : Except Error String :=
  match document.node id with
  | .error cause => .error cause
  | .ok node =>
    .ok (String.ofList (Listing.nodeText node layout (document.enteringVariables id)))

/-- The listing of a document, or why its nodes have no order. -/
def listing (document : Document) (layout : Layout) : Except OrderError String :=
  match document.graph.queueOrder with
  | .error cause => .error cause
  | .ok order => .ok (String.ofList (Listing.join (Listing.parts document layout order)))

/-- The listing of a document, or a notice of the cycle that prevents it. -/
def code (document : Document) (layout : Layout) : Except Overdraw String :=
  match document.listing layout with
  | .ok text => .ok text
  | .error (.cycle _) => .ok Listing.cycleNotice
  | .error (.overdrawn overdraw) => .error overdraw

end Document

end Dataflow
