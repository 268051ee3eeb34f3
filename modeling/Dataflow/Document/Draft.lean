import Dataflow.Document.Edit

/-!
# Drafts

A draft is a document under construction. Nodes are numbered and bound as in any document, while
edges are taken as they are given, so a draft can describe graphs that editing would refuse.
-/

namespace Dataflow

/-- A document under construction. -/
structure Draft where
  /-- The document so far. -/
  document : Document
  /-- How many edges were drawn. -/
  edgeCount : Nat

namespace Draft

/-- The start of a document. -/
def start (id name : String) : Draft := ⟨.empty id name, 0⟩

/-- Append a node. A node whose id is taken, or for which no number is left, is passed over. -/
def addNode (draft : Draft) (id : String) (schema : Schema) : Draft :=
  match draft.document.insert id schema with
  | .ok document => { draft with document }
  | .error _ => draft

/-- Set a value of the last item of a list of nodes. -/
def setLast (name : String) (value : Json) : List Node → List Node
  | [] => []
  | [node] => [{ node with values := node.values.insert name value }]
  | node :: rest => node :: setLast name value rest

/-- Set a value of the last node. -/
def withValue (draft : Draft) (name : String) (value : Json) : Draft :=
  { draft with
    document := { draft.document with nodes := setLast name value draft.document.nodes } }

/-- The id of an edge by its number. -/
def edgeId (number : Nat) : String := "edge-" ++ String.ofList (Decimal.digitsOf number)

/-- Append an edge. -/
def addEdge (draft : Draft) (source sourcePort target targetPort : String) : Draft :=
  let number := draft.edgeCount + 1
  let edge : Edge := { id := edgeId number, source, sourcePort, target, targetPort }
  { document := { draft.document with edges := draft.document.edges ++ [edge] }
    edgeCount := number }

end Draft

end Dataflow
