import Dataflow.Document
import Dataflow.Json.Record
import Dataflow.Text.Replace

/-!
# Status of nodes

A node is configured if it has an algorithm and a source for each required input. The outcome of its
last run, if it is kept, is shown in place of that. A board keeps the outcomes and remembers the
statuses that were last reported, so that only changes are reported.
-/

namespace Dataflow

/-- How the run of a node stands. -/
inductive Outcome where
  /-- The run has not ended. -/
  | running
  /-- The run ended well. -/
  | success
  /-- The run failed. -/
  | failed
  deriving DecidableEq, Inhabited

/-- What is shown for a node. -/
inductive Status where
  /-- The node cannot run. -/
  | unconfigured
  /-- The node can run. -/
  | configured
  /-- The node has run or runs. -/
  | ran (outcome : Outcome)
  deriving DecidableEq, Inhabited

namespace Outcome

/-- The word for an outcome. -/
def word : Outcome → String
  | .running => "running"
  | .success => "success"
  | .failed => "failed"

/-- The outcome with a word. -/
def ofWord? : String → Option Outcome
  | "running" => some .running
  | "success" => some .success
  | "failed" => some .failed
  | _ => none

/-- The outcome of a run that ended with an output: failed if the marker of errors occurs in it. An
empty marker marks nothing. -/
def ofOutput (output marker : String) : Outcome :=
  if !marker.toList.isEmpty && Text.occursIn marker.toList output.toList then .failed
  else .success

end Outcome

namespace Status

/-- The word for a status. -/
def word : Status → String
  | .unconfigured => "unconfigured"
  | .configured => "configured"
  | .ran outcome => outcome.word

/-- The status with a word. -/
def ofWord? : String → Option Status
  | "unconfigured" => some .unconfigured
  | "configured" => some .configured
  | other => (Outcome.ofWord? other).map .ran

/-- The name of a status in a table. -/
def title : Status → String
  | .unconfigured => "Unconfigured"
  | .configured => "Configured"
  | .ran .running => "Running"
  | .ran .success => "Success"
  | .ran .failed => "Failed"

/-- Read a status. -/
def ofJson? (value : Json) : Option Status := value.looseWord?.bind ofWord?

end Status

namespace Document

/-- Whether an input has an edge from a node that exists. -/
def feeds (document : Document) (id port : String) : Bool :=
  (document.edgeInto? id port).any fun edge => document.contains edge.source

/-- The status of a node apart from any run. -/
def structuralStatus (document : Document) (node : Node) : Status :=
  if node.schema.category = .free then .unconfigured
  else if node.schema.requiredInputs.all fun port => document.feeds node.id port.name then
    .configured
  else .unconfigured

end Document

/-- The outcomes that are shown, and the statuses that were last reported. -/
structure Board where
  /-- The outcome of the last run of each node that has one. -/
  overlay : Dictionary Outcome
  /-- The status that was last reported for each node. -/
  reported : Dictionary Status
  deriving DecidableEq

namespace Board

/-- A board on which nothing was reported. -/
def empty : Board := ⟨.empty, .empty⟩

/-- Record the outcome of a run. -/
def record (board : Board) (id : String) (outcome : Outcome) : Board :=
  { board with overlay := board.overlay.insert id outcome }

/-- Forget the outcome of the run of a node. -/
def clear (board : Board) (id : String) : Board :=
  { board with overlay := board.overlay.erase id }

/-- Forget the outcomes of some nodes. -/
def clearEach (board : Board) (ids : List String) : Board := ids.foldl clear board

/-- Forget all outcomes. -/
def clearAll (board : Board) : Board := { board with overlay := .empty }

/-- The status of a node. A free node never shows an outcome. -/
def status (board : Board) (document : Document) (node : Node) : Status :=
  if node.schema.category = .free then document.structuralStatus node
  else match board.overlay.get? node.id with
    | some outcome => .ran outcome
    | none => document.structuralStatus node

/-- The status of every node, in document order. -/
def statuses (board : Board) (document : Document) : List (String × Status) :=
  document.nodes.map fun node => (node.id, board.status document node)

/-- Report the statuses that differ from those last reported. Nodes that are gone are forgotten. -/
def refresh (board : Board) (document : Document) : Board × List (String × Status) :=
  let current := board.statuses document
  let reported := Dictionary.ofList current
  ({ overlay := board.overlay.filterKeys reported.contains, reported },
    current.filter fun entry => board.reported.get? entry.1 != some entry.2)

end Board

end Dataflow
