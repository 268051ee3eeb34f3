import Dataflow.Error

/-!
# Orders of a graph

A graph is a list of nodes and a list of links between them. Two orders put the source of a link
before its target. The queue order takes nodes as soon as all their links are passed and fails on a
cycle. It counts links down and breaks off where a count would go below zero, which may happen where
a node is listed more than once. The depth-first order walks against the links and passes over a
node that it is still busy with, so it orders every graph, and only nodes on a cycle may come too
early.

Links whose ends are not both nodes of the graph are ignored. A node may be listed more than once;
its links are then still counted once for the name.
-/

namespace Dataflow

/-- A link from one node to another. -/
structure Link where
  /-- The node that the link leaves. -/
  source : String
  /-- The node that the link enters. -/
  target : String
  deriving DecidableEq, Inhabited

/-- Nodes and the links between them. -/
structure Graph where
  /-- The nodes in their given order. -/
  nodes : List String
  /-- The links in their given order. -/
  links : List Link

namespace Graph

/-- The links between nodes of the graph. -/
def innerLinks (graph : Graph) : List Link :=
  graph.links.filter fun link =>
    graph.nodes.contains link.source && graph.nodes.contains link.target

/-- The nodes that the links of a node lead to, once for each link. -/
def targetsOf (graph : Graph) (id : String) : List String :=
  (graph.innerLinks.filter fun link => link.source == id).map Link.target

/-- The nodes that the links into a node come from, once for each link. -/
def sourcesOf (graph : Graph) (id : String) : List String :=
  (graph.innerLinks.filter fun link => link.target == id).map Link.source

/-- The state of the queue order. -/
structure Sweep where
  /-- The nodes whose links are all passed, in the order in which that happened. -/
  queue : List String
  /-- How many links into a node are not passed yet. -/
  waiting : String → Nat
  /-- The nodes already taken. -/
  order : List String

namespace Sweep

/-- Pass a link into a node. The node joins the queue when no other link is left. If none is left
before, there is nothing to count down. -/
def pass (sweep : Sweep) (target : String) : Except Overdraw Sweep :=
  match sweep.waiting target with
  | 0 => .error ⟨target⟩
  | left + 1 =>
    .ok { sweep with
      waiting := fun id => if id = target then left else sweep.waiting id
      queue := if left = 0 then sweep.queue ++ [target] else sweep.queue }

/-- Take the first node of the queue and pass its links. -/
def take (graph : Graph) (sweep : Sweep) : Except Overdraw Sweep :=
  match sweep.queue with
  | [] => .ok sweep
  | id :: rest =>
    (graph.targetsOf id).foldlM pass { sweep with queue := rest, order := sweep.order ++ [id] }

/-- Take nodes a number of times. -/
def run (graph : Graph) : Nat → Sweep → Except Overdraw Sweep
  | 0, sweep => .ok sweep
  | steps + 1, sweep => do
    let taken ← sweep.take graph
    run graph steps taken

end Sweep

/-- The start of the queue order: nodes without links into them, in their given order. -/
def seed (graph : Graph) : Sweep where
  queue := graph.nodes.filter fun id => (graph.sourcesOf id).isEmpty
  waiting := fun id => (graph.sourcesOf id).length
  order := []

/-- The nodes in queue order, or the cycle that leaves some of them out, or the count that was used
up. No node is taken more often than it is listed, so as many steps as there are nodes empty the
queue. -/
def queueOrder (graph : Graph) : Except OrderError (List String) :=
  match graph.seed.run graph graph.nodes.length with
  | .error overdraw => .error (.overdrawn overdraw)
  | .ok sweep =>
    if sweep.order.length < graph.nodes.length then
      .error (.cycle ⟨graph.nodes.filter fun id => !sweep.order.contains id⟩)
    else .ok sweep.order

/-- Put a node behind all that it depends on. `busy` holds the nodes that wait for it; no more than
`depth` nodes can wait at a time. -/
def visit (graph : Graph) : Nat → List String → List String → String → List String
  | 0, _, order, _ => order
  | depth + 1, busy, order, id =>
    if order.contains id || busy.contains id then order
    else (graph.sourcesOf id).foldl (visit graph depth (id :: busy)) order ++ [id]

/-- Every node once, behind those it depends on as far as there is no cycle. -/
def depthFirstOrder (graph : Graph) : List String :=
  graph.nodes.foldl (graph.visit graph.nodes.length []) []

end Graph

end Dataflow
