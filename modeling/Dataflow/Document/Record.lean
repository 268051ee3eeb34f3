import Dataflow.Document
import Dataflow.Error
import Dataflow.Schema.Record

/-!
# Documents as records

Reading and writing of nodes, edges and documents. Values, variables and metadata of a node and the
lists and the counter of a document have defaults. A document that is kept as a text can be read
back if its record is not nested too deep.
-/

namespace Dataflow

/-- Write what a pass made of a node. -/
def PassStatus.toJson : PassStatus → Json
  | .pending => .object [("state", .string "pending")]
  | .ready => .object [("state", .string "ready")]
  | .error message => .object [("state", .string "error"), ("message", .string message)]

/-- Read what a pass made of a node, given the name of the state. -/
def PassStatus.ofRecord? (state : String) (record : Record) : Option PassStatus :=
  match state with
  | "pending" => if record.fits 0 then some .pending else none
  | "ready" => if record.fits 0 then some .ready else none
  | "error" =>
    if record.fits 1 then (record.required 0 "message" Json.string?).map .error else none
  | _ => none

/-- Read what a pass made of a node. -/
def PassStatus.ofJson? (value : Json) : Option PassStatus :=
  (value.variant? "state").bind fun (state, record) => ofRecord? state record

/-- The names of the states, which may also be given by their places. -/
def PassStatus.states : List String := ["pending", "ready", "error"]

/-- Read what a pass made of a node, where the state may be given by its place. -/
def PassStatus.ofPlaced? (value : Json) : Option PassStatus :=
  (value.variantBy? (Json.nameOrPlace? states) "state").bind fun (state, record) =>
    ofRecord? state record

/-- Write metadata. -/
def Metadata.toJson (metadata : Metadata) : Json :=
  .object [("inputColumns", metadata.inputColumns.toJson),
    ("outputColumns", metadata.outputColumns.toJson), ("status", metadata.status.toJson)]

/-- Read metadata, given how its status is read. -/
def Metadata.readWith (readStatus : Json → Option PassStatus) (value : Json) :
    Option Metadata := do
  let record ← value.record? 3
  let inputColumns ← record.optional 0 "inputColumns" .empty PortColumns.ofJson?
  let outputColumns ← record.optional 1 "outputColumns" .empty PortColumns.ofJson?
  let status ← record.optional 2 "status" .pending readStatus
  return { inputColumns, outputColumns, status }

/-- Read metadata. -/
def Metadata.ofJson? (value : Json) : Option Metadata := readWith PassStatus.ofJson? value

/-- The fields of metadata. -/
def Metadata.shape : Json.Shape :=
  .record [("inputColumns", PortColumns.shape), ("outputColumns", PortColumns.shape),
    ("status", .whole)]

/-- Read metadata from a text. -/
def Metadata.ofText? (text : String) : Option Metadata :=
  (Json.parseAs shape text).bind ofJson?

/-- Write the variable of an output port. -/
def Binding.toJson (binding : Binding) : Json :=
  .object [("port", .string binding.port), ("variable", .string binding.name)]

/-- Read the variable of an output port. -/
def Binding.ofJson? (value : Json) : Option Binding := do
  let record ← value.record? 2
  let port ← record.required 0 "port" Json.string?
  let name ← record.required 1 "variable" Json.string?
  return { port, name }

/-- The fields of the variable of an output port. -/
def Binding.shape : Json.Shape := .plain ["port", "variable"]

/-- Write a node. -/
def Node.toJson (node : Node) : Json :=
  .object [("id", .string node.id), ("ordinal", .int node.ordinal.toNat),
    ("schema", node.schema.toJson), ("values", Json.ofDictionary (fun value => value) node.values),
    ("bindings", .array (node.bindings.map Binding.toJson)),
    ("metadata", node.metadata.toJson)]

/-- Read a node. -/
def Node.ofJson? (value : Json) : Option Node := do
  let record ← value.record? 6
  let id ← record.required 0 "id" Json.string?
  let ordinal ← record.required 1 "ordinal" Json.word32?
  let schema ← record.required 2 "schema" Schema.ofJson?
  let values ← record.optional 3 "values" .empty Json.dictionary?
  let bindings ← record.optional 4 "bindings" [] (Json.listOf Binding.ofJson?)
  let metadata ← record.optional 5 "metadata" .initial Metadata.ofJson?
  return { id, ordinal, schema, values, bindings, metadata }

/-- The fields of a node. -/
def Node.shape : Json.Shape :=
  .record [("id", .whole), ("ordinal", .whole), ("schema", Schema.shape), ("values", .whole),
    ("bindings", .listOf Binding.shape), ("metadata", Metadata.shape)]

/-- Read a node from a text. -/
def Node.ofText? (text : String) : Option Node := (Json.parseAs shape text).bind ofJson?

/-- Write an edge. -/
def Edge.toJson (edge : Edge) : Json :=
  .object [("id", .string edge.id), ("source", .string edge.source),
    ("sourcePort", .string edge.sourcePort), ("target", .string edge.target),
    ("targetPort", .string edge.targetPort)]

/-- Read an edge. -/
def Edge.ofJson? (value : Json) : Option Edge := do
  let record ← value.record? 5
  let id ← record.required 0 "id" Json.string?
  let source ← record.required 1 "source" Json.string?
  let sourcePort ← record.required 2 "sourcePort" Json.string?
  let target ← record.required 3 "target" Json.string?
  let targetPort ← record.required 4 "targetPort" Json.string?
  return { id, source, sourcePort, target, targetPort }

/-- The fields of an edge. -/
def Edge.shape : Json.Shape := .plain ["id", "source", "sourcePort", "target", "targetPort"]

/-- Read an edge from a text. -/
def Edge.ofText? (text : String) : Option Edge := (Json.parseAs shape text).bind ofJson?

/-- Write a document. -/
def Document.toJson (document : Document) : Json :=
  .object [("id", .string document.id), ("name", .string document.name),
    ("nodes", .array (document.nodes.map Node.toJson)),
    ("edges", .array (document.edges.map Edge.toJson)),
    ("nextOrdinal", .int document.nextOrdinal.toNat)]

/-- Read a document. -/
def Document.ofJson? (value : Json) : Option Document := do
  let record ← value.record? 5
  let id ← record.required 0 "id" Json.string?
  let name ← record.required 1 "name" Json.string?
  let nodes ← record.optional 2 "nodes" [] (Json.listOf Node.ofJson?)
  let edges ← record.optional 3 "edges" [] (Json.listOf Edge.ofJson?)
  let nextOrdinal ← record.optional 4 "nextOrdinal" firstOrdinal Json.word32?
  return { id, name, nodes, edges, nextOrdinal }

/-- The fields of a document. -/
def Document.shape : Json.Shape :=
  .record [("id", .whole), ("name", .whole), ("nodes", .listOf Node.shape),
    ("edges", .listOf Edge.shape), ("nextOrdinal", .whole)]

/-- Read a document from a text. -/
def Document.ofText? (text : String) : Option Document :=
  (Json.parseAs shape text).bind ofJson?

/-- Whether a document can be read back from a text of its record. -/
def Document.isReadable (document : Document) : Bool :=
  document.toJson.depth ≤ Json.nestingLimit

/-- The document that is read back from a text of its record. -/
def Document.readBack (document : Document) : Except Error Document :=
  if document.isReadable then .ok document else .error .unreadable

end Dataflow
