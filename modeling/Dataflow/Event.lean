import Dataflow.Document.Record
import Dataflow.Status

/-!
# Events

What a session tells its host. Every event names the document that it is about. An event is read
as a whole before its fields are, so none of its fields is passed over.
-/

namespace Dataflow

/-- Something that a host is told. -/
inductive Event where
  /-- The status of a node changed. -/
  | statusChanged (document node : String) (status : Status)
  /-- A pass found other columns for a node. -/
  | columnsUpdated (document node : String) (metadata : Metadata)
  /-- A pass did not start. -/
  | passSkipped (document reason : String)
  /-- A pass ended, with so many nodes updated and so many failed. -/
  | passCompleted (document : String) (updated errors : Nat)
  /-- There is a cycle, so there is no listing or no pass. -/
  | cycleFound (document : String) (unsorted : List String)
  /-- Code was made for a node, or for the whole document. -/
  | codeGenerated (document : String) (node : Option String) (code : String)
  deriving DecidableEq

namespace Event

/-- Write an event. -/
def toJson : Event → Json
  | .statusChanged document node status =>
    .object [("type", .string "nodeStatusChanged"), ("documentId", .string document),
      ("nodeId", .string node), ("status", .string status.word)]
  | .columnsUpdated document node metadata =>
    .object [("type", .string "columnsUpdated"), ("documentId", .string document),
      ("nodeId", .string node), ("metadata", metadata.toJson)]
  | .passSkipped document reason =>
    .object [("type", .string "propagationSkipped"), ("documentId", .string document),
      ("reason", .string reason)]
  | .passCompleted document updated errors =>
    .object [("type", .string "propagationCompleted"), ("documentId", .string document),
      ("updated", .int updated), ("errors", .int errors)]
  | .cycleFound document unsorted =>
    .object [("type", .string "cycleDetected"), ("documentId", .string document),
      ("unsorted", .array (unsorted.map .string))]
  | .codeGenerated document node code =>
    .object [("type", .string "codeGenerated"), ("documentId", .string document),
      ("nodeId", Json.ofOption .string node), ("code", .string code)]

/-- Read the fields of an event, given its name. -/
def ofRecord? (name : String) (record : Record) : Option Event := do
  let document ← record.required 0 "documentId" Json.string?
  match name with
  | "nodeStatusChanged" =>
    guard (record.fits 3)
    let node ← record.required 1 "nodeId" Json.string?
    let status ← record.required 2 "status" Status.ofJson?
    return .statusChanged document node status
  | "columnsUpdated" =>
    guard (record.fits 3)
    let node ← record.required 1 "nodeId" Json.string?
    let metadata ← record.required 2 "metadata" (Metadata.readWith PassStatus.ofPlaced?)
    return .columnsUpdated document node metadata
  | "propagationSkipped" =>
    guard (record.fits 2)
    let reason ← record.required 1 "reason" Json.string?
    return .passSkipped document reason
  | "propagationCompleted" =>
    guard (record.fits 3)
    let updated ← record.required 1 "updated" Json.count?
    let errors ← record.required 2 "errors" Json.count?
    return .passCompleted document updated errors
  | "cycleDetected" =>
    guard (record.fits 2)
    let unsorted ← record.required 1 "unsorted" (Json.listOf Json.string?)
    return .cycleFound document unsorted
  | "codeGenerated" =>
    guard (record.fits 3)
    let node ← record.optional 1 "nodeId" none (Json.nullable Json.string?)
    let code ← record.required 2 "code" Json.string?
    return .codeGenerated document node code
  | _ => none

/-- Read an event. -/
def ofJson? (value : Json) : Option Event :=
  (value.variant? "type").bind fun (name, record) => ofRecord? name record

/-- Read an event from a text. -/
def ofText? (text : String) : Option Event := (Json.parse text).bind ofJson?

end Event

end Dataflow
