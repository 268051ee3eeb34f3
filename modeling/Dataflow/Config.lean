import Dataflow.Json.Parser
import Dataflow.Json.Printer
import Dataflow.Json.Record
import Dataflow.Listing

/-!
# Configuration

Settings for listings, passes and runs. Every setting has a default.
-/

namespace Dataflow

/-- What a pass does about a cycle. -/
inductive CyclePolicy where
  /-- Report the cycle and leave all columns as they are. -/
  | failFast
  /-- Go on in depth-first order. -/
  | silentStop
  deriving DecidableEq, Inhabited

/-- All settings. -/
structure Config where
  /-- The directory that holds the data sets. -/
  rootDir : Option String
  /-- The lines at the start of a listing. -/
  header : List String
  /-- Whether the result of a call is shown. -/
  emitPreview : Bool
  /-- What a pass does about a cycle. -/
  cyclePolicy : CyclePolicy
  /-- The text in an output that tells of an error. -/
  errorMarker : String
  /-- The address of a remote library. -/
  libraryUrl : Option String
  /-- How many seconds a request to a remote library may take. -/
  requestTimeout : Nat
  deriving DecidableEq, Inhabited

/-- The word for a policy. -/
def CyclePolicy.word : CyclePolicy → String
  | .failFast => "fail_fast"
  | .silentStop => "silent_stop"

/-- Read a policy. -/
def CyclePolicy.ofJson? (value : Json) : Option CyclePolicy :=
  match value.word? with
  | some "fail_fast" => some .failFast
  | some "silent_stop" => some .silentStop
  | _ => none

namespace Config

/-- The settings where nothing else is chosen. -/
def default : Config where
  rootDir := none
  header := ["import pandas as pd"]
  emitPreview := true
  cyclePolicy := .failFast
  errorMarker := "Traceback (most recent call last)"
  libraryUrl := none
  requestTimeout := 30

/-- The settings of listings. -/
def layout (config : Config) : Layout where
  rootDir := config.rootDir
  header := config.header
  preview := config.emitPreview

/-- Write the settings. -/
def toJson (config : Config) : Json :=
  .object [("root_dir", Json.ofOption .string config.rootDir),
    ("header", .array (config.header.map .string)),
    ("emit_preview", .bool config.emitPreview),
    ("cycle_policy", .string config.cyclePolicy.word),
    ("error_marker", .string config.errorMarker),
    ("library_url", Json.ofOption .string config.libraryUrl),
    ("request_timeout_secs", .int config.requestTimeout)]

/-- Read the settings. -/
def ofJson? (value : Json) : Option Config := do
  let record ← value.record? 7
  let rootDir ← record.optional 0 "root_dir" none (Json.nullable Json.string?)
  let header ← record.optional 1 "header" default.header (Json.listOf Json.string?)
  let emitPreview ← record.optional 2 "emit_preview" true Json.bool?
  let cyclePolicy ← record.optional 3 "cycle_policy" .failFast CyclePolicy.ofJson?
  let errorMarker ← record.optional 4 "error_marker" default.errorMarker Json.string?
  let libraryUrl ← record.optional 5 "library_url" none (Json.nullable Json.string?)
  let requestTimeout ← record.optional 6 "request_timeout_secs" default.requestTimeout Json.count?
  return { rootDir, header, emitPreview, cyclePolicy, errorMarker, libraryUrl, requestTimeout }

/-- The fields of the settings. -/
def shape : Json.Shape :=
  .plain ["root_dir", "header", "emit_preview", "cycle_policy", "error_marker", "library_url",
    "request_timeout_secs"]

/-- Read the settings from the text of a file. -/
def ofText? (text : String) : Option Config := (Json.parseAs shape text).bind ofJson?

/-- The text of a file with the settings. -/
def text (config : Config) : String := config.toJson.pretty

/-- The name of the file with the settings in its directory. -/
def fileName : String := "pipeline-config.json"

end Config

end Dataflow
