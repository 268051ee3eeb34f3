import Dataflow.Document.Normalize
import Dataflow.Document.Record
import Dataflow.Json.Parser

/-!
# Stores

A store holds records by key and a list of cells of code. A document is kept as one record for each
node and one for the rest, which lists the nodes. A store may be kept in a file, which is written
after every change.
-/

namespace Dataflow

/-- Records and cells. -/
structure Store where
  /-- The records by key. -/
  records : Dictionary Json
  /-- The cells in order. -/
  cells : List String

/-- The part of a document that is kept apart from its nodes. -/
structure Outline where
  /-- The id of the document. -/
  id : String
  /-- The name of the document. -/
  name : String
  /-- The number of the next node. -/
  nextOrdinal : UInt32
  /-- The ids of the nodes in order. -/
  nodeIds : List String
  /-- The edges in order. -/
  edges : List Edge

namespace Outline

/-- The part of a document that is kept apart from its nodes. -/
def ofDocument (document : Document) : Outline where
  id := document.id
  name := document.name
  nextOrdinal := document.nextOrdinal
  nodeIds := document.nodeIds
  edges := document.edges

/-- Write an outline. -/
def toJson (outline : Outline) : Json :=
  .object [("id", .string outline.id), ("name", .string outline.name),
    ("nextOrdinal", .int outline.nextOrdinal.toNat),
    ("nodeIds", .array (outline.nodeIds.map .string)),
    ("edges", .array (outline.edges.map Edge.toJson))]

/-- Read an outline. -/
def ofJson? (value : Json) : Option Outline := do
  let record ← value.record? 5
  let id ← record.required 0 "id" Json.string?
  let name ← record.required 1 "name" Json.string?
  let nextOrdinal ← record.required 2 "nextOrdinal" Json.word32?
  let nodeIds ← record.required 3 "nodeIds" (Json.listOf Json.string?)
  let edges ← record.optional 4 "edges" [] (Json.listOf Edge.ofJson?)
  return { id, name, nextOrdinal, nodeIds, edges }

end Outline

namespace Store

/-- The store without content. -/
def empty : Store := ⟨.empty, []⟩

/-- The key of the outline of the document. -/
def outlineKey : String := "__document__"

/-- The key of the record of a node. -/
def nodeKey (id : String) : String := "node:" ++ id

/-- The record under a key. -/
def get? (store : Store) (key : String) : Option Json := store.records.get? key

/-- Set the record under a key. -/
def set (store : Store) (key : String) (value : Json) : Store :=
  { store with records := store.records.insert key value }

/-- The error for a cell that does not exist. -/
def outOfRange (store : Store) (index : Nat) : Error :=
  .store (.cellOutOfRange index store.cells.length)

/-- Insert a cell before another, or at the end. -/
def insertCell (store : Store) (index : Nat) (text : String) : Except Error Store :=
  if index ≤ store.cells.length then
    .ok { store with cells := store.cells.take index ++ text :: store.cells.drop index }
  else .error (store.outOfRange index)

/-- Delete a cell. -/
def deleteCell (store : Store) (index : Nat) : Except Error Store :=
  if index < store.cells.length then .ok { store with cells := store.cells.eraseIdx index }
  else .error (store.outOfRange index)

/-- The text of a cell. -/
def cell (store : Store) (index : Nat) : Except Error String :=
  match store.cells[index]? with
  | some text => .ok text
  | none => .error (store.outOfRange index)

/-- Set the text of a cell. -/
def setCell (store : Store) (index : Nat) (text : String) : Except Error Store :=
  if index < store.cells.length then .ok { store with cells := store.cells.set index text }
  else .error (store.outOfRange index)

/-- Set the text of a cell, or append it if there are only the cells before. -/
def writeCell (store : Store) (index : Nat) (text : String) : Except Error Store :=
  match store.setCell index text with
  | .ok changed => .ok changed
  | .error _ => store.insertCell index text

/-- The ids of the nodes that the store lists, or none if it has no outline that can be read. -/
def listedNodes (store : Store) : List String :=
  ((store.get? outlineKey).bind Outline.ofJson?).elim [] Outline.nodeIds

/-- Keep a document. Records of nodes that the store listed before and that are gone become null. -/
def save (store : Store) (document : Document) : Store :=
  let withNodes := document.nodes.foldl
    (fun store node => store.set (nodeKey node.id) node.toJson) store
  let stale := store.listedNodes.filter fun id => !document.contains id
  let withoutStale := stale.foldl (fun store id => store.set (nodeKey id) .null) withNodes
  withoutStale.set outlineKey (Outline.ofDocument document).toJson

/-- The nodes with given ids, each of which must have a record that can be read. -/
def loadNodes (store : Store) : List String → Except Error (List Node)
  | [] => .ok []
  | id :: rest =>
    match store.get? (nodeKey id) with
    | none | some .null => .error (.store (.missingNode id))
    | some value =>
      match Node.ofJson? value with
      | none => .error .unreadable
      | some node =>
        match store.loadNodes rest with
        | .error cause => .error cause
        | .ok nodes => .ok (node :: nodes)

/-- The document of an outline and its nodes, before it is normalized. -/
def assemble (outline : Outline) (nodes : List Node) : Document :=
  ({ Document.empty outline.id outline.name with nodes, edges := outline.edges }).advance
    outline.nextOrdinal

/-- The document that the store keeps, if it keeps one. -/
def load (store : Store) : Except Error (Option Document) :=
  match store.get? outlineKey with
  | none => .ok none
  | some value =>
    match Outline.ofJson? value with
    | none => .error .unreadable
    | some outline =>
      match store.loadNodes outline.nodeIds with
      | .error cause => .error cause
      | .ok nodes =>
        match (assemble outline nodes).normalize with
        | (_, .error cause) => .error cause
        | (document, .ok _) => .ok (some document)

/-- Write a store. Records are kept with their fields in key order. -/
def toJson (store : Store) : Json :=
  .object [("entries", Json.ofDictionary Json.sortFields store.records),
    ("cells", .array (store.cells.map .string))]

/-- Read a store. -/
def ofJson? (value : Json) : Option Store := do
  let record ← value.record? 2
  let records ← record.optional 0 "entries" .empty Json.dictionary?
  let cells ← record.optional 1 "cells" [] (Json.listOf Json.string?)
  return { records, cells }

/-- The fields of a store. -/
def shape : Json.Shape := .plain ["entries", "cells"]

/-- Read a store from the text of a file. -/
def ofText? (text : String) : Option Store := (Json.parseAs shape text).bind ofJson?

/-- The text of a file that keeps the store. -/
def text (store : Store) : String := store.toJson.pretty

end Store

/-- A store together with the file that it may be kept in. -/
structure StoreFile where
  /-- The store. -/
  store : Store
  /-- Whether changes are written to the file. -/
  persistent : Bool
  /-- The text of the file, if it exists. -/
  file : Option String

namespace StoreFile

/-- An empty store whose file does not exist yet. -/
def create (persistent : Bool) : StoreFile := ⟨.empty, persistent, none⟩

/-- Take a changed store and write it. -/
def commit (kept : StoreFile) (store : Store) : StoreFile :=
  { kept with store, file := if kept.persistent then some store.text else kept.file }

/-- An empty store on the same file. -/
def reopen (kept : StoreFile) : StoreFile := { kept with store := .empty }

/-- Put another text into the file. -/
def overwrite (kept : StoreFile) (text : String) : StoreFile := { kept with file := some text }

/-- Read the store from its file. Also says whether there was one. -/
def reload (kept : StoreFile) : Except Error (StoreFile × Bool) :=
  if !kept.persistent then .ok (kept, false)
  else match kept.file with
    | none => .ok (kept, false)
    | some text =>
      match Store.ofText? text with
      | none => .error .unreadable
      | some store => .ok ({ kept with store }, true)

end StoreFile

end Dataflow
