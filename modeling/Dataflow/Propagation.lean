import Dataflow.Config
import Dataflow.Document.Edit
import Dataflow.Event
import Dataflow.Library
import Dataflow.Registry
import Dataflow.Text.LowerCase

/-!
# Propagation of columns

A pass finds the columns on the ports of all nodes. It takes a copy of the document, puts its nodes
in order, asks the library for the columns of the sources, walks the nodes in that order, and writes
what it found into the document as that is by then.

At most one pass is under way: a pass that wants to start meanwhile is dropped. A pass that would
see the same document as the last one is skipped.
-/

namespace Dataflow

/-- What is remembered between passes. -/
structure Propagator where
  /-- Whether a pass is under way. -/
  inFlight : Bool
  /-- The fingerprint of the document at the last pass. -/
  last : Option Fingerprint
  deriving DecidableEq

/-- A pass that is under way. -/
structure Pass where
  /-- The document as it was at the start. -/
  snapshot : Document
  /-- The fingerprint of the document at the start. -/
  fingerprint : Fingerprint
  /-- The nodes in the order in which they are walked. -/
  order : List String

/-- What a finished pass did. -/
structure PassReport where
  /-- The nodes with other columns than before. -/
  updated : List String
  /-- The nodes whose columns could not be found. -/
  errors : List String
  /-- The nodes that were deleted meanwhile. -/
  discarded : List String
  deriving DecidableEq

/-- How an attempt at a pass ends. -/
inductive PassOutcome where
  /-- Another pass was under way. -/
  | dropped
  /-- Nothing changed since the last pass. -/
  | unchanged
  /-- There is a cycle. -/
  | cycle (found : Cycle)
  /-- A link came up that was not counted. -/
  | overdrawn (found : Overdraw)
  /-- The pass was finished. -/
  | completed (report : PassReport)

/-- How an attempt at a pass begins. -/
inductive PassStart where
  /-- It ends at once. -/
  | ended (outcome : PassOutcome)
  /-- It is under way. -/
  | begun (pass : Pass)

/-- Why the columns of a node could not be found. -/
inductive PassError where
  /-- A source does not say how its columns are fetched. -/
  | noFetch (algorithm : String)
  /-- The parameter that tells what to fetch has no text. -/
  | unset (parameter : String)
  /-- The library has no answer. -/
  | library (cause : LibraryError)
  /-- Nothing was fetched for a source. -/
  | notFetched
  /-- No column transform is registered. -/
  | noTransform (algorithm : String)
  /-- The column transform rejects its inputs. -/
  | transform (cause : TransformError)

/-- The text for a node whose columns could not be found. -/
def PassError.message : PassError → String
  | .noFetch algorithm => "source '" ++ algorithm ++ "' has no fetch descriptor"
  | .unset parameter => "parameter '" ++ parameter ++ "' is not set"
  | .library cause => cause.message
  | .notFetched => "columns were not fetched"
  | .noTransform algorithm => "no column transform registered for '" ++ algorithm ++ "'"
  | .transform cause => (Error.transform cause).message

namespace Propagation

/-- How the columns of a source are fetched: as its algorithm is registered, else as its own schema
says. -/
def fetchOf (registry : Registry) (node : Node) : Option Fetch :=
  match registry.kind? node.schema.id with
  | some (.source fetch) => some fetch
  | _ => node.schema.fetch

/-- The path or the name that a source asks for. -/
def fetchKey (node : Node) (fetch : Fetch) : Except PassError String :=
  match node.valueOrDefault fetch.source.parameter with
  | .string key =>
    if key.toList.isEmpty then .error (.unset fetch.source.parameter) else .ok key
  | _ => .error (.unset fetch.source.parameter)

/-- The names in a value that is a name or a list of names, in lower case. -/
def indexNames (value : Json) : List String :=
  let names := match value with
    | .string name => [name]
    | .array items => items.filterMap Json.string?
    | _ => []
  (names.filter fun name => !name.toList.isEmpty).map Text.lower

/-- The columns without those that are used as the index. Case does not matter. -/
def dropIndex (node : Node) (fetch : Fetch) (columns : List Column) : List Column :=
  match fetch.indexParameter with
  | none => columns
  | some parameter =>
    let names := indexNames (node.valueOrDefault parameter)
    columns.filter fun column => !names.contains (Text.lower column.name)

/-- The columns of a source. -/
def fetchColumns (registry : Registry) (library : Answers) (node : Node) :
    Except PassError (List Column) :=
  match fetchOf registry node with
  | none => .error (.noFetch node.schema.id)
  | some fetch =>
    match fetchKey node fetch with
    | .error cause => .error cause
    | .ok key =>
      match library.columns fetch.source key with
      | .error cause => .error (.library cause)
      | .ok columns => .ok (dropIndex node fetch columns)

/-- Whether the columns of a node are asked for at the library. -/
def asksLibrary (registry : Registry) (node : Node) : Bool :=
  node.schema.category = .source &&
    (fetchOf registry node).any fun fetch => (fetchKey node fetch).isOk

/-- The sources of a document. -/
def sources (document : Document) : List Node :=
  document.nodes.filter fun node => node.schema.category = .source

/-- The columns of all sources. -/
def fetchAll (registry : Registry) (library : Answers) (document : Document) :
    Dictionary (Except PassError (List Column)) :=
  Dictionary.ofList <| (sources document).map fun node =>
    (node.id, fetchColumns registry library node)

/-- The values of a node with those of the schema where the node holds none, put through the column
transform that is registered. -/
def transformColumns (registry : Registry) (node : Node) (inputs : PortColumns) :
    Except PassError PortColumns :=
  match registry.kind? node.schema.id with
  | some (.transform run) => (run inputs node.effectiveValues node.schema).mapError .transform
  | _ => .error (.noTransform node.schema.id)

/-- What a walk has found, and what it still has to hand out. -/
structure Walk where
  /-- The columns of sources that no node has taken yet. -/
  fetched : Dictionary (Except PassError (List Column))
  /-- The metadata found so far, by node. -/
  computed : Dictionary Metadata
  /-- The metadata found so far, in the order of the walk. -/
  results : List (String × Metadata)

/-- The metadata of a node: what the walk found, else what the document held before. -/
def knownMetadata? (snapshot : Document) (computed : Dictionary Metadata) (id : String) :
    Option Metadata :=
  match computed.get? id with
  | some metadata => some metadata
  | none => (snapshot.node? id).map Node.metadata

/-- The columns on the inputs of a node. The last of several edges into one input counts. -/
def inputColumns (snapshot : Document) (computed : Dictionary Metadata) (id : String) :
    PortColumns :=
  Dictionary.ofList <| (snapshot.incoming id).filterMap fun edge =>
    (knownMetadata? snapshot computed edge.source).map fun metadata =>
      (edge.targetPort, metadata.outputColumns.on edge.sourcePort)

/-- The columns on the outputs of a node. -/
def outputColumns (registry : Registry) (node : Node)
    (fetched : Option (Except PassError (List Column))) (inputs : PortColumns) :
    Except PassError PortColumns :=
  match node.schema.category with
  | .source =>
    match fetched with
    | none => .error .notFetched
    | some (.error cause) => .error cause
    | some (.ok columns) => .ok (publish node.schema columns)
  | .transform => transformColumns registry node inputs
  | .sink | .free => .ok .empty

/-- The metadata for columns on inputs and outputs. -/
def metadataOf (inputs : PortColumns) : Except PassError PortColumns → Metadata
  | .ok outputs => ⟨inputs, outputs, .ready⟩
  | .error cause => ⟨inputs, .empty, .error cause.message⟩

/-- Find the columns of the next node. The columns of a source are handed out once. -/
def Walk.step (registry : Registry) (snapshot : Document) (walk : Walk) (id : String) : Walk :=
  match snapshot.node? id with
  | none => walk
  | some node =>
    let inputs := inputColumns snapshot walk.computed id
    let outputs := outputColumns registry node (walk.fetched.get? id) inputs
    let metadata := metadataOf inputs outputs
    { fetched :=
        if node.schema.category = .source then walk.fetched.erase id else walk.fetched
      computed := walk.computed.insert id metadata
      results := walk.results ++ [(id, metadata)] }

end Propagation

namespace Pass

/-- The metadata that a pass finds, in the order of its walk. -/
def results (pass : Pass) (registry : Registry) (library : Answers) : List (String × Metadata) :=
  let start : Propagation.Walk :=
    { fetched := Propagation.fetchAll registry library pass.snapshot
      computed := .empty
      results := [] }
  (pass.order.foldl (Propagation.Walk.step registry pass.snapshot) start).results

/-- Whether a pass asks the library for anything. -/
def asksLibrary (pass : Pass) (registry : Registry) : Bool :=
  pass.snapshot.nodes.any (Propagation.asksLibrary registry)

end Pass

/-- Whether a pass failed at a node. -/
def Metadata.isError (metadata : Metadata) : Bool :=
  match metadata.status with
  | .error _ => true
  | _ => false

namespace PassReport

/-- The report of a pass that has written nothing. -/
def empty : PassReport := ⟨[], [], []⟩

end PassReport

/-- A document into which the results of a pass are written. -/
structure Writing where
  /-- The document so far. -/
  document : Document
  /-- The report so far. -/
  report : PassReport
  /-- The events so far. -/
  events : List Event

namespace Writing

/-- Write the metadata of a node, unless it is gone or has the same already. -/
def write (writing : Writing) (result : String × Metadata) : Writing :=
  let (id, metadata) := result
  match writing.document.node? id with
  | none =>
    { writing with
      report := { writing.report with discarded := writing.report.discarded ++ [id] } }
  | some node =>
    let errors :=
      if metadata.isError then writing.report.errors ++ [id] else writing.report.errors
    if node.metadata = metadata then
      { writing with report := { writing.report with errors } }
    else
      { document := writing.document.modifyNode id fun node => { node with metadata }
        report := { writing.report with errors, updated := writing.report.updated ++ [id] }
        events := writing.events ++ [.columnsUpdated writing.document.id id metadata] }

end Writing

/-- Write the results of a pass into a document. -/
def Document.writeResults (document : Document) (results : List (String × Metadata)) : Writing :=
  results.foldl Writing.write ⟨document, .empty, []⟩

namespace Propagator

/-- A propagator that has made no pass. -/
def idle : Propagator := ⟨false, none⟩

/-- Forget the last pass, so that the next one is not skipped as unchanged. -/
def invalidate (propagator : Propagator) : Propagator := { propagator with last := none }

/-- The order of the walk, or why there is none. -/
def walkOrder (policy : CyclePolicy) (document : Document) : Except OrderError (List String) :=
  match policy with
  | .failFast => document.graph.queueOrder
  | .silentStop => .ok document.graph.depthFirstOrder

/-- Begin a pass on a document, unless another is under way, nothing changed, or there is no order.
A cycle is remembered like a pass; an attempt that breaks off leaves no trace. -/
def begin (propagator : Propagator) (policy : CyclePolicy) (document : Document) :
    Propagator × PassStart × List Event :=
  if propagator.inFlight then
    (propagator, .ended .dropped, [.passSkipped document.id "pass in flight"])
  else if propagator.last = some document.fingerprint then
    (propagator, .ended .unchanged, [.passSkipped document.id "unchanged"])
  else match walkOrder policy document with
    | .error (.cycle cycle) =>
      ({ propagator with last := some document.fingerprint }, .ended (.cycle cycle),
        [.cycleFound document.id cycle.unsorted])
    | .error (.overdrawn overdraw) => (propagator, .ended (.overdrawn overdraw), [])
    | .ok order =>
      ({ propagator with inFlight := true },
        .begun { snapshot := document, fingerprint := document.fingerprint, order }, [])

/-- End a pass that is under way. -/
def finish (_ : Propagator) (pass : Pass) : Propagator :=
  { inFlight := false, last := some pass.fingerprint }

end Propagator

end Dataflow
