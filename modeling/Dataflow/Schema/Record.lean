import Dataflow.Column
import Dataflow.Schema

/-!
# Schemas as records

Reading and writing of schemas and their parts. Labels of types, roles, and lists of ports and
parameters have defaults; a priority and a fetch description are left out where they are absent.
-/

namespace Dataflow

/-- Write a port. -/
def Port.toJson (port : Port) : Json :=
  .object [("name", .string port.name), ("typeLabel", .string port.typeLabel),
    ("required", .bool port.required)]

/-- Read a port. -/
def Port.ofJson? (value : Json) : Option Port := do
  let record ← value.record? 3
  let name ← record.required 0 "name" Json.string?
  let typeLabel ← record.optional 1 "typeLabel" anyType Json.string?
  let required ← record.optional 2 "required" false Json.bool?
  return { name, typeLabel, required }

/-- The fields of a port. -/
def Port.shape : Json.Shape := .plain ["name", "typeLabel", "required"]

/-- The word for a role. -/
def Role.word : Role → String
  | .input => "input"
  | .output => "output"
  | .plain => "plain"

/-- Read a role. -/
def Role.ofJson? (value : Json) : Option Role :=
  match value.word? with
  | some "input" => some .input
  | some "output" => some .output
  | some "plain" => some .plain
  | _ => none

/-- Write a parameter. -/
def Parameter.toJson (parameter : Parameter) : Json :=
  .object ([("name", .string parameter.name), ("typeLabel", .string parameter.typeLabel),
    ("default", parameter.fallback), ("role", .string parameter.role.word)]
    ++ Json.presentField "priority" (fun priority => .int priority.toInt) parameter.priority)

/-- Read a parameter. -/
def Parameter.ofJson? (value : Json) : Option Parameter := do
  let record ← value.record? 5
  let name ← record.required 0 "name" Json.string?
  let typeLabel ← record.optional 1 "typeLabel" anyType Json.string?
  let fallback ← record.optional 2 "default" .null some
  let role ← record.optional 3 "role" .plain Role.ofJson?
  let priority ← record.optional 4 "priority" none (Json.nullable Json.signedWord32?)
  return { name, typeLabel, fallback, role, priority }

/-- The fields of a parameter. -/
def Parameter.shape : Json.Shape := .plain ["name", "typeLabel", "default", "role", "priority"]

/-- The word for a category. -/
def Category.word : Category → String
  | .source => "source"
  | .transform => "transform"
  | .sink => "sink"
  | .free => "free"

/-- Read a category. A free node may also be called unassigned. -/
def Category.ofJson? (value : Json) : Option Category :=
  match value.word? with
  | some "source" => some .source
  | some "transform" => some .transform
  | some "sink" => some .sink
  | some "free" => some .free
  | some "unassigned" => some .free
  | _ => none

/-- Write a template. -/
def Template.toJson : Template → Json
  | .flat text => .object [("mode", .string "flat"), ("template", .string text)]
  | .call function => .object [("mode", .string "call"), ("function", .string function)]

/-- Read a template. -/
def Template.ofJson? (value : Json) : Option Template := do
  let (mode, record) ← value.variant? "mode"
  guard (record.fits 1)
  match mode with
  | "flat" => (record.required 0 "template" Json.string?).map .flat
  | "call" => (record.required 0 "function" Json.string?).map .call
  | _ => none

/-- Write where columns come from. -/
def FetchSource.toJson : FetchSource → Json
  | .file parameter => .object [("from", .string "file"), ("parameter", .string parameter)]
  | .variable parameter => .object [("from", .string "variable"), ("parameter", .string parameter)]

/-- Read where columns come from. -/
def FetchSource.ofJson? (value : Json) : Option FetchSource := do
  let (origin, record) ← value.variant? "from"
  guard (record.fits 1)
  let parameter ← record.required 0 "parameter" Json.string?
  match origin with
  | "file" => some (.file parameter)
  | "variable" => some (.variable parameter)
  | _ => none

/-- Write a fetch description. -/
def Fetch.toJson (fetch : Fetch) : Json :=
  .object (("source", fetch.source.toJson)
    :: Json.presentField "indexParameter" .string fetch.indexParameter)

/-- Read a fetch description. -/
def Fetch.ofJson? (value : Json) : Option Fetch := do
  let record ← value.record? 2
  let source ← record.required 0 "source" FetchSource.ofJson?
  let indexParameter ← record.optional 1 "indexParameter" none (Json.nullable Json.string?)
  return { source, indexParameter }

/-- The fields of a fetch description. -/
def Fetch.shape : Json.Shape := .plain ["source", "indexParameter"]

/-- Write a schema. -/
def Schema.toJson (schema : Schema) : Json :=
  .object ([("id", .string schema.id), ("category", .string schema.category.word),
    ("label", .string schema.label), ("inputs", .array (schema.inputs.map Port.toJson)),
    ("outputs", .array (schema.outputs.map Port.toJson)),
    ("parameters", .array (schema.parameters.map Parameter.toJson)),
    ("template", schema.template.toJson)] ++ Json.presentField "fetch" Fetch.toJson schema.fetch)

/-- Read a schema. -/
def Schema.ofJson? (value : Json) : Option Schema := do
  let record ← value.record? 8
  let id ← record.required 0 "id" Json.string?
  let category ← record.required 1 "category" Category.ofJson?
  let label ← record.optional 2 "label" "" Json.string?
  let inputs ← record.optional 3 "inputs" [] (Json.listOf Port.ofJson?)
  let outputs ← record.optional 4 "outputs" [] (Json.listOf Port.ofJson?)
  let parameters ← record.optional 5 "parameters" [] (Json.listOf Parameter.ofJson?)
  let template ← record.required 6 "template" Template.ofJson?
  let fetch ← record.optional 7 "fetch" none (Json.nullable Fetch.ofJson?)
  return { id, category, label, inputs, outputs, parameters, template, fetch }

/-- The fields of a schema. -/
def Schema.shape : Json.Shape :=
  .record [("id", .whole), ("category", .whole), ("label", .whole),
    ("inputs", .listOf Port.shape), ("outputs", .listOf Port.shape),
    ("parameters", .listOf Parameter.shape), ("template", .whole), ("fetch", Fetch.shape)]

/-- Read a schema from a text. -/
def Schema.ofText? (text : String) : Option Schema :=
  (Json.parseAs shape text).bind ofJson?

end Dataflow
