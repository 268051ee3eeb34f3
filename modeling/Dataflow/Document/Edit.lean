import Dataflow.Document
import Dataflow.Names

/-!
# Editing a document

Each edit either fails and says why, or gives the edited document together with what the edit found.
Edits keep ids and numbers distinct, let at most one edge into each input, and leave no edge behind
without its ends.
-/

namespace Dataflow

/-- Change the first item that passes a test. -/
def modifyFirst {α : Type} (test : α → Bool) (change : α → α) : List α → List α
  | [] => []
  | item :: rest =>
    if test item then change item :: rest else item :: modifyFirst test change rest

/-- What follows from another schema. -/
structure SchemaChange where
  /-- Whether the variables of the node changed. -/
  bindingsChanged : Bool
  /-- The edges whose port is gone. -/
  removed : List Edge

/-- What follows from the deletion of a node. -/
structure Removal where
  /-- The node that was deleted. -/
  node : Node
  /-- The edges that touched it. -/
  removed : List Edge
  /-- The other nodes that an edge from it entered. -/
  affected : List String

namespace Document

/-- Move the counter to a number, if that is forward. -/
def advance (document : Document) (next : UInt32) : Document :=
  { document with
    nextOrdinal := if document.nextOrdinal ≤ next then next else document.nextOrdinal }

/-- Take the next number. -/
def allocate (document : Document) : Except Error (Document × UInt32) :=
  if document.nextOrdinal = lastOrdinal then .error .ordinalsExhausted
  else .ok ({ document with nextOrdinal := document.nextOrdinal + 1 }, document.nextOrdinal)

/-- Change the first node with an id. -/
def modifyNode (document : Document) (id : String) (change : Node → Node) : Document :=
  { document with nodes := modifyFirst (fun node => node.id == id) change document.nodes }

/-- Change the first node with an id, which must exist. -/
def updateNode (document : Document) (id : String) (change : Node → Node) :
    Except Error Document :=
  if document.contains id then .ok (document.modifyNode id change) else .error (.nodeNotFound id)

/-- Append a node with an id that is known to be new. -/
def insertNew (document : Document) (id : String) (schema : Schema) : Except Error Document :=
  match document.allocate with
  | .error cause => .error cause
  | .ok (counted, ordinal) =>
    .ok { counted with nodes := counted.nodes ++ [Node.create id ordinal schema] }

/-- Append a node with an id that must be new. -/
def insert (document : Document) (id : String) (schema : Schema) : Except Error Document :=
  if document.contains id then .error (.duplicateNode id) else document.insertNew id schema

/-- Set a value of a node. -/
def setValue (document : Document) (id name : String) (value : Json) : Except Error Document :=
  document.updateNode id fun node => { node with values := node.values.insert name value }

/-- Set all values of a node. -/
def setValues (document : Document) (id : String) (values : Values) : Except Error Document :=
  document.updateNode id fun node => { node with values }

/-- Whether an edge uses a port of a node that a schema does not declare. -/
def orphaned (id : String) (schema : Schema) (edge : Edge) : Bool :=
  (edge.target == id && !schema.inputNames.contains edge.targetPort)
    || (edge.source == id && !schema.outputNames.contains edge.sourcePort)

/-- Give a node another schema. Edges on ports that are gone are dropped. -/
def assign (document : Document) (id : String) (schema : Schema) :
    Except Error (Document × SchemaChange) :=
  match document.node id with
  | .error cause => .error cause
  | .ok node =>
    let edited := document.modifyNode id fun node => (node.withSchema schema).ensureBound
    .ok ({ edited with edges := document.edges.filter fun edge => !orphaned id schema edge },
      { bindingsChanged := !(node.withSchema schema).isBound
        removed := document.edges.filter (orphaned id schema) })

/-- Why an edge cannot be added, if it cannot. The source is checked before the target, and the
ports before the connection. -/
def connectFault? (document : Document) (source sourcePort target targetPort : String) :
    Option Error :=
  match document.node? source with
  | none => some (.nodeNotFound source)
  | some sourceNode =>
    if (sourceNode.schema.output? sourcePort).isNone then some (.unknownPort source sourcePort)
    else match document.node? target with
      | none => some (.nodeNotFound target)
      | some targetNode =>
        if (targetNode.schema.input? targetPort).isNone then some (.unknownPort target targetPort)
        else if (document.edgeInto? target targetPort).isSome then
          some (.portConnected target targetPort)
        else none

/-- Append an edge from an output to an input. -/
def connect (document : Document) (edge : Edge) : Except Error Document :=
  match document.connectFault? edge.source edge.sourcePort edge.target edge.targetPort with
  | some cause => .error cause
  | none => .ok { document with edges := document.edges ++ [edge] }

/-- Remove an edge. -/
def disconnect (document : Document) (id : String) : Except Error (Document × Edge) :=
  match document.edges.find? fun edge => edge.id == id with
  | none => .error (.edgeNotFound id)
  | some edge =>
    .ok ({ document with edges := document.edges.eraseP fun edge => edge.id == id }, edge)

/-- Delete a node and every edge that touches it. -/
def delete (document : Document) (id : String) : Except Error (Document × Removal) :=
  match document.node id with
  | .error cause => .error cause
  | .ok node =>
    let removed := document.edges.filter fun edge => edge.touches id
    .ok ({ document with
        nodes := document.nodes.eraseP fun node => node.id == id
        edges := document.edges.filter fun edge => !edge.touches id },
      { node, removed
        affected := distinct <| (removed.filter fun edge =>
          edge.source == id && edge.target != id).map Edge.target })

/-- Give the schema of a node other outputs and leave its variables as they are. -/
def setOutputs (document : Document) (id : String) (outputs : List Port) :
    Except Error Document :=
  document.updateNode id fun node => { node with schema := { node.schema with outputs } }

/-- Bind the outputs of a node afresh if its variables do not belong to them. Also says whether they
did not. -/
def ensureBound (document : Document) (id : String) : Except Error (Document × Bool) :=
  match document.node id with
  | .error cause => .error cause
  | .ok node => .ok (document.modifyNode id Node.ensureBound, !node.isBound)

end Document

end Dataflow
