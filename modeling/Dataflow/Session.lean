import Dataflow.History
import Dataflow.Propagation
import Dataflow.Store

/-!
# Sessions

A session is a document that is edited, listed and run. Every edit keeps the document before it for
undo, drops the outcomes of runs that it made stale, and reports the statuses that changed. What is
kept has to be encoded, which happens after the edit and may fail. If documents can be encoded, an
operation that fails leaves the session as it was; only undo and redo move on in the history when
they fail. If the document before an edit cannot be encoded, the edit fails and yet stays in the
document, and nothing else follows it.

New ids are made by the host and given to the operations that need them.
-/

namespace Dataflow

/-- What encodes documents for the history, and may fail. A document that was encoded is kept as it
is, so only the failure shows. -/
abbrev Encoder := Document → Except Error Unit

/-- An encoder that never fails. -/
def Encoder.total : Encoder := fun _ => .ok ()

/-- A document that is edited, with all that belongs to it. -/
structure Session where
  /-- The document as it is now. -/
  document : Document
  /-- The algorithms that nodes can have. -/
  registry : Registry
  /-- Where schemas and columns come from. -/
  library : Answers
  /-- The settings. -/
  config : Config
  /-- What encodes the documents of the history. -/
  encode : Encoder
  /-- The documents before and after this one. -/
  history : History Document
  /-- The outcomes of runs and the statuses last reported. -/
  board : Board
  /-- What is remembered between passes. -/
  propagator : Propagator
  /-- The events so far. -/
  events : List Event

/-- What running a node gave. -/
structure RunReport where
  /-- The node that was run. -/
  node : String
  /-- How the run ended. -/
  outcome : Outcome
  /-- What the run printed, or why it failed. -/
  output : String

/-- What runs code: it takes the id of a node and its code, and gives what was printed. -/
abbrev Backend := String → String → Except Error String

namespace Session

/-- Begin a session on a document, which is normalized first. -/
def start (document : Document) (registry : Registry) (library : Answers) (config : Config)
    (encode : Encoder) : Except Error Session :=
  match document.normalize with
  | (_, .error cause) => .error cause
  | (normal, .ok _) =>
    .ok {
      document := normal
      registry := registry
      library := library
      config := config
      encode := encode
      history := .start History.defaultDepth
      board := (Board.empty.refresh normal).1
      propagator := .idle
      events := [] }

/-- Report events. -/
def emit (session : Session) (events : List Event) : Session :=
  { session with events := session.events ++ events }

/-- Report the statuses that changed. -/
def refresh (session : Session) : Session :=
  let (board, changed) := session.board.refresh session.document
  let events := changed.map fun (id, status) => Event.statusChanged session.document.id id status
  { session with board }.emit events

/-- Edit the document. The edit also gives the nodes whose outcomes it made stale. The document
before it is encoded only then, and if that fails, the edit is not taken back. -/
def edit {α : Type} (session : Session) (change : Document → Except Error (Document × α))
    (stale : α → List String) : Session × Except Error α :=
  match change session.document with
  | .error cause => (session, .error cause)
  | .ok (document, found) =>
    match session.encode session.document with
    | .error cause => ({ session with document }, .error cause)
    | .ok () =>
      ({ session with
          document
          history := session.history.checkpoint session.document
          board := session.board.clearEach (stale found) }.refresh, .ok found)

/-- Edit the document without making outcomes stale. -/
def editOnly (session : Session) (change : Document → Except Error Document) :
    Session × Except Error Unit :=
  session.edit (fun document => (change document).map fun edited => (edited, ())) fun _ => []

/-- The schema of a registered algorithm. -/
def registeredSchema (session : Session) (algorithm : String) : Except Error Schema :=
  match session.registry.schema? algorithm with
  | some schema => .ok schema
  | none => .error (.unknownAlgorithm algorithm)

/-- The schema of an algorithm that is registered or that the library knows. One from the library
comes without a column transform, so the library cannot bring transforms. -/
def knownSchema (session : Session) (algorithm : String) : Except Error Schema :=
  match session.registry.schema? algorithm with
  | some schema => .ok schema
  | none =>
    match session.library.schema algorithm with
    | .error (.notFound _ _) => .error (.unknownAlgorithm algorithm)
    | .error cause => .error (.library cause)
    | .ok schema =>
      match Kind.resolve schema none with
      | .error cause => .error (.registry cause)
      | .ok _ => .ok schema

/-- Add a node with a new id and a schema. -/
def insert (session : Session) (id : String) (schema : Except Error Schema) :
    Session × Except Error Unit :=
  match schema with
  | .error cause => (session, .error cause)
  | .ok schema => session.editOnly fun document => document.insertNew id schema

/-- Add a node with a registered algorithm. -/
def addNode (session : Session) (id algorithm : String) : Session × Except Error Unit :=
  session.insert id (session.registeredSchema algorithm)

/-- Add a node with an algorithm that is registered or that the library knows. -/
def addNodeFromLibrary (session : Session) (id algorithm : String) : Session × Except Error Unit :=
  session.insert id (session.knownSchema algorithm)

/-- Add a node without an algorithm. -/
def addUnassigned (session : Session) (id : String) : Session × Except Error Unit :=
  session.insert id
    (.ok ((session.registry.schema? Schema.unassignedId).getD Schema.unassigned))

/-- Give a node another schema. The node and those that lose an input become stale. -/
def reassign (session : Session) (id : String) (schema : Except Error Schema) :
    Session × Except Error SchemaChange :=
  match schema with
  | .error cause => (session, .error cause)
  | .ok schema =>
    session.edit (fun document => document.assign id schema) fun change =>
      id :: change.removed.map Edge.target

/-- Give a node a registered algorithm. -/
def assign (session : Session) (id algorithm : String) : Session × Except Error SchemaChange :=
  session.reassign id (session.registeredSchema algorithm)

/-- Give a node an algorithm that is registered or that the library knows. -/
def assignFromLibrary (session : Session) (id algorithm : String) :
    Session × Except Error SchemaChange :=
  session.reassign id (session.knownSchema algorithm)

/-- Set a value of a node. -/
def setValue (session : Session) (id name : String) (value : Json) : Session × Except Error Unit :=
  session.editOnly fun document => document.setValue id name value

/-- Add an edge. -/
def connect (session : Session) (edge : Edge) : Session × Except Error Unit :=
  session.editOnly fun document => document.connect edge

/-- Remove an edge. Its target becomes stale. -/
def disconnect (session : Session) (id : String) : Session × Except Error Edge :=
  session.edit (fun document => document.disconnect id) fun edge => [edge.target]

/-- Delete a node. The node and those that lose an input become stale. -/
def delete (session : Session) (id : String) : Session × Except Error Removal :=
  session.edit (fun document => document.delete id) fun removal =>
    removal.affected ++ [removal.node.id]

/-- Go to another document of the history. The counter does not go back. If the current document
cannot be encoded, the other one is dropped from the history. A document that cannot be read back is
passed in the history, but the current one stays. -/
def restore (session : Session) (step : Option (Document × History Document))
    (dropped : History Document) : Session × Except Error Bool :=
  match step with
  | none => (session, .ok false)
  | some (kept, history) =>
    match session.encode session.document with
    | .error cause => ({ session with history := dropped }, .error cause)
    | .ok () =>
      match kept.readBack with
      | .error cause => ({ session with history }, .error cause)
      | .ok document =>
        ({ session with
            document := document.advance session.document.nextOrdinal
            history }.refresh, .ok true)

/-- Take back the last edit. Also says whether there was one. -/
def undo (session : Session) : Session × Except Error Bool :=
  session.restore (session.history.undo? session.document) session.history.dropPast

/-- Make the last edit that was taken back again. Also says whether there was one. -/
def redo (session : Session) : Session × Except Error Bool :=
  session.restore (session.history.redo? session.document) session.history.dropFuture

/-- The status of every node, in document order. -/
def statuses (session : Session) : List (String × Status) :=
  session.board.statuses session.document

/-- The status of a node. -/
def status? (session : Session) (id : String) : Option Status :=
  (session.document.node? id).map (session.board.status session.document)

/-- The listing of the document, or a notice of the cycle that prevents it. -/
def code (session : Session) : Session × Except Overdraw String :=
  match session.document.listing session.config.layout with
  | .ok code => (session.emit [.codeGenerated session.document.id none code], .ok code)
  | .error (.cycle cycle) =>
    (session.emit [.cycleFound session.document.id cycle.unsorted], .ok Listing.cycleNotice)
  | .error (.overdrawn overdraw) => (session, .error overdraw)

/-- The code of a node. -/
def nodeCode (session : Session) (id : String) : Session × Except Error String :=
  match session.document.nodeCode session.config.layout id with
  | .error cause => (session, .error cause)
  | .ok code => (session.emit [.codeGenerated session.document.id (some id) code], .ok code)

/-- Write the listing into a cell of a store. -/
def writeCell (session : Session) (store : Store) (index : Nat) :
    Session × Except Error Store :=
  match session.code with
  | (listed, .ok code) => (listed, store.writeCell index code)
  | (listed, .error overdraw) => (listed, .error (.overdrawn overdraw))

/-- The report of a run. -/
def runReport (session : Session) (id : String) : Except Error String → RunReport
  | .ok output => ⟨id, .ofOutput output session.config.errorMarker, output⟩
  | .error cause => ⟨id, .failed, cause.message⟩

/-- Record the outcome of a run and report it. -/
def record (session : Session) (id : String) (outcome : Outcome) : Session :=
  { session with board := session.board.record id outcome }.refresh

/-- Run the code of a node. -/
def execute (session : Session) (backend : Backend) (id : String) :
    Session × Except Error RunReport :=
  match session.document.nodeCode session.config.layout id with
  | .error cause => (session, .error cause)
  | .ok code =>
    let report := session.runReport id (backend id code)
    ((session.record id .running).record id report.outcome, .ok report)

/-- Forget the outcome of the run of a node. -/
def clearExecution (session : Session) (id : String) : Session :=
  if session.board.overlay.contains id then
    { session with board := session.board.clear id }.refresh
  else session

/-- Begin a pass. -/
def beginPass (session : Session) : Session × PassStart :=
  let (propagator, start, events) :=
    session.propagator.begin session.config.cyclePolicy session.document
  ({ session with propagator }.emit events, start)

/-- Write what a pass found and end it. -/
def finishPass (session : Session) (pass : Pass) : Session × PassReport :=
  let results := pass.results session.registry session.library
  let writing := session.document.writeResults results
  let completed : Event := .passCompleted pass.snapshot.id writing.report.updated.length
    writing.report.errors.length
  ({ session with
      document := writing.document
      propagator := session.propagator.finish pass }.emit (writing.events ++ [completed]),
    writing.report)

/-- Make a pass. -/
def propagate (session : Session) : Session × PassOutcome :=
  match session.beginPass with
  | (session, .ended outcome) => (session, outcome)
  | (session, .begun pass) =>
    let (session, report) := session.finishPass pass
    (session, .completed report)

/-- Forget the last pass. -/
def invalidate (session : Session) : Session :=
  { session with propagator := session.propagator.invalidate }

/-- Use another library, and forget the last pass. -/
def useLibrary (session : Session) (library : Answers) : Session :=
  { session with library, propagator := .idle }

/-- Keep the document in a store. -/
def save (session : Session) (store : Store) : Store := store.save session.document

/-- Begin a session on the document that a store keeps, with the same algorithms and settings. The
library is given anew. -/
def load (session : Session) (store : Store) (library : Answers) :
    Except Error (Option Session) :=
  match store.load with
  | .error cause => .error cause
  | .ok none => .ok none
  | .ok (some document) =>
    (Session.start document session.registry library session.config session.encode).map some

end Session

end Dataflow
