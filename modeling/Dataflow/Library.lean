import Dataflow.Error
import Dataflow.Json.Parser
import Dataflow.Schema.Record

/-!
# Libraries

A library answers with the schemas of algorithms and with the columns of files and of variables. One
that holds its answers is read from a file; others may ask elsewhere and fail for reasons of their
own.
-/

namespace Dataflow

/-- What a library answers, wherever it has the answers from. -/
structure Answers where
  /-- The schema of an algorithm. -/
  schema : String → Except LibraryError Schema
  /-- The columns of a file. -/
  fileColumns : String → Except LibraryError (List Column)
  /-- The columns of a variable. -/
  variableColumns : String → Except LibraryError (List Column)
  deriving Inhabited

/-- The columns that a source asks for under a key. -/
def Answers.columns (answers : Answers) (source : FetchSource) (key : String) :
    Except LibraryError (List Column) :=
  match source with
  | .file _ => answers.fileColumns key
  | .variable _ => answers.variableColumns key

/-- What a library knows that holds its answers. -/
structure Library where
  /-- Schemas by algorithm. -/
  schemas : Dictionary Schema
  /-- Columns by path. -/
  files : Dictionary (List Column)
  /-- Columns by variable. -/
  environment : Dictionary (List Column)
  deriving Inhabited

namespace Library

/-- The library that knows nothing. -/
def empty : Library := ⟨.empty, .empty, .empty⟩

/-- Read a library. -/
def ofJson? (value : Json) : Option Library := do
  let record ← value.record? 3
  let schemas ← record.optional 0 "schemas" .empty (Json.dictionaryOf Schema.ofJson?)
  let files ← record.optional 1 "files" .empty PortColumns.ofJson?
  let environment ← record.optional 2 "variables" .empty PortColumns.ofJson?
  return { schemas, files, environment }

/-- The fields of a library. -/
def shape : Json.Shape :=
  .record [("schemas", .dictionaryOf Schema.shape), ("files", PortColumns.shape),
    ("variables", PortColumns.shape)]

/-- Read a library from the text of a file, if there is one. -/
def ofFile : Option String → Except LibraryError Library
  | none => .error .unreadable
  | some text =>
    match (Json.parseAs shape text).bind ofJson? with
    | some library => .ok library
    | none => .error .invalid

/-- Add the schema of an algorithm. -/
def withSchema (library : Library) (schema : Schema) : Library :=
  { library with schemas := library.schemas.insert schema.id schema }

/-- Add the columns of a file. -/
def withFile (library : Library) (path : String) (columns : List Column) : Library :=
  { library with files := library.files.insert path columns }

/-- Add the columns of a variable. -/
def withVariable (library : Library) (name : String) (columns : List Column) : Library :=
  { library with environment := library.environment.insert name columns }

/-- The entry under a key, which must exist. -/
def answer {α : Type} (resource : Resource) (entries : Dictionary α) (key : String) :
    Except LibraryError α :=
  match entries.get? key with
  | some value => .ok value
  | none => .error (.notFound resource key)

/-- The schema of an algorithm. -/
def schema (library : Library) (algorithm : String) : Except LibraryError Schema :=
  answer .schema library.schemas algorithm

/-- The columns of a file. -/
def fileColumns (library : Library) (path : String) : Except LibraryError (List Column) :=
  answer .file library.files path

/-- The columns of a variable. -/
def variableColumns (library : Library) (name : String) : Except LibraryError (List Column) :=
  answer .variable library.environment name

/-- The answers that a library holds. -/
def answers (library : Library) : Answers where
  schema := library.schema
  fileColumns := library.fileColumns
  variableColumns := library.variableColumns

instance : Coe Library Answers := ⟨answers⟩

/-- The address of a remote library without slashes at its end. -/
def baseUrl (url : String) : String :=
  String.ofList (url.toList.reverse.dropWhile (· == '/')).reverse

end Library

end Dataflow
