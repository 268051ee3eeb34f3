import Dataflow.Graph
import Dataflow.Node

/-!
# Documents

A document holds nodes and edges in order and a counter for the numbers of its nodes. Ids are looked
up in order, so the first of two nodes with one id counts.
-/

namespace Dataflow

/-- A pipeline. -/
structure Document where
  /-- The name that events and stores know the document by. -/
  id : String
  /-- The name shown to users. -/
  name : String
  /-- The nodes in the order of their insertion. -/
  nodes : List Node
  /-- The edges in the order of their insertion. -/
  edges : List Edge
  /-- The number of the next node. It never goes back. -/
  nextOrdinal : UInt32
  deriving Inhabited

/-- The link between nodes that an edge makes. -/
def Edge.link (edge : Edge) : Link := ⟨edge.source, edge.target⟩

/-- Whether an edge leaves or enters a node. -/
def Edge.touches (edge : Edge) (id : String) : Bool := edge.source == id || edge.target == id

/-- The first number of a document. -/
def firstOrdinal : UInt32 := 1

/-- The end of the numbers, which no node gets. -/
def lastOrdinal : UInt32 := 0xFFFFFFFF

/-- A text for each part of a document that decides about its columns. -/
abbrev Fingerprint := List String

namespace Document

/-- A document without nodes. -/
def empty (id name : String) : Document :=
  { id, name, nodes := [], edges := [], nextOrdinal := firstOrdinal }

/-- The first node with an id. -/
def node? (document : Document) (id : String) : Option Node :=
  document.nodes.find? fun node => node.id == id

/-- The first node with an id, which must exist. -/
def node (document : Document) (id : String) : Except Error Node :=
  match document.node? id with
  | some node => .ok node
  | none => .error (.nodeNotFound id)

/-- Whether some node has an id. -/
def contains (document : Document) (id : String) : Bool := (document.node? id).isSome

/-- The ids of the nodes. -/
def nodeIds (document : Document) : List String := document.nodes.map Node.id

/-- The edges into a node. -/
def incoming (document : Document) (id : String) : List Edge :=
  document.edges.filter fun edge => edge.target == id

/-- The edges out of a node. -/
def outgoing (document : Document) (id : String) : List Edge :=
  document.edges.filter fun edge => edge.source == id

/-- The first edge into an input. -/
def edgeInto? (document : Document) (id port : String) : Option Edge :=
  document.edges.find? fun edge => edge.target == id && edge.targetPort == port

/-- The nodes and the links between them. -/
def graph (document : Document) : Graph := ⟨document.nodeIds, document.edges.map Edge.link⟩

/-- The variable of an output of a node. -/
def variableOf? (document : Document) (id port : String) : Option String :=
  (document.node? id).bind fun node => node.binding? port

/-- The variable that enters each connected input of a node. The last of several edges into one
input counts, and an edge whose source has no variable is passed over. -/
def enteringVariables (document : Document) (id : String) : Dictionary String :=
  Dictionary.ofList <| (document.incoming id).filterMap fun edge =>
    (document.variableOf? edge.source edge.sourcePort).map fun name => (edge.targetPort, name)

/-- What a node adds to the fingerprint. -/
def nodeFingerprint (node : Node) : List String :=
  node.id :: node.schema.id :: node.values.entries.flatMap fun entry =>
    [entry.1, entry.2.compact]

/-- What an edge adds to the fingerprint. -/
def edgeFingerprint (edge : Edge) : List String :=
  [edge.source, edge.sourcePort, edge.target, edge.targetPort]

/-- The texts on which the columns of a document depend: ids, algorithms, values and edges. What a
pass finds is not among them, so that writing it back asks for no other pass. -/
def fingerprint (document : Document) : Fingerprint :=
  document.nodes.flatMap nodeFingerprint ++ document.edges.flatMap edgeFingerprint

end Document

end Dataflow
