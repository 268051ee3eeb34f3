import Dataflow.Catalog
import Dataflow.Cli.Arguments
import Dataflow.Cli.Script
import Dataflow.Session
import Dataflow.Text.Shown

/-!
# Commands

What each command does, as a script. The settings are read first of all; a pass reads its library
before the document.
-/

namespace Dataflow

namespace Command

/-- The path of a file in a directory. -/
def inDirectory (directory name : String) : String :=
  if directory.toList.getLast? = some '/' then directory ++ name else directory ++ "/" ++ name

/-- Read the settings of a directory, and go on with them. A directory without a file of settings
has the default ones. -/
def withConfig (directory : Option String) (next : Config → Script) : Script :=
  match directory with
  | none => next .default
  | some directory =>
    .readFile (inDirectory directory Config.fileName) fun
      | .missing => next .default
      | .unreadable => .fail "IO error"
      | .content text =>
        match Config.ofText? text with
        | some config => next config
        | none => .fail "Failed to parse config"

/-- Read a document and begin a session on it. -/
def withSession (path : String) (library : Library) (config : Config)
    (next : Session → Script) : Script :=
  .readFile path fun
    | .missing | .unreadable => .fail ("Failed to read " ++ Text.shown path)
    | .content text =>
      match Document.ofText? text with
      | none => .fail ("Invalid document " ++ Text.shown path)
      | some document =>
        match Session.start document Catalog.registry library config .total with
        | .error cause => .fail cause.message
        | .ok session => next session

/-- Write a file and end. -/
def writeAndEnd (path text : String) : Script :=
  .writeFile path text fun
    | true => .finish .done
    | false => .fail ("Failed to write " ++ Text.shown path)

/-- Print a text and end. -/
def printAndEnd (text : String) : Script := .print text (.finish .done)

/-- A text with blanks behind it up to a width. -/
def padded (width : Nat) (text : String) : String :=
  String.ofList (text.toList ++ List.replicate (width - text.toList.length) ' ')

/-- The message for a pass without a library. -/
def noLibrary : String :=
  "No schema library given; pass --library or --library-url, or set library_url in the config"

/-- Find the library of a pass, and go on with it. A remote library is not asked for anything before
a source needs it, and no connection is made here, so it stands for one that knows nothing. -/
def withLibrary (config : Config) (file url : Option String) (next : Library → Script) : Script :=
  match file with
  | some path =>
    .readFile path fun found =>
      let text := match found with
        | .content text => some text
        | _ => none
      match Library.ofFile text with
      | .ok library => next library
      | .error cause => .fail cause.message
  | none =>
    match url.or config.libraryUrl with
    | some _ => next .empty
    | none => .fail noLibrary

/-- The line of a node in the table of statuses. -/
def statusLine (document : Document) (entry : String × Status) : String :=
  let label := ((document.node? entry.1).map fun node => node.schema.label).getD ""
  padded 38 entry.1 ++ " " ++ padded 18 label ++ " " ++ entry.2.title ++ "\n"

/-- The columns on a port. -/
def portLine (entry : String × List Column) : String :=
  let columns := entry.2.map fun column => column.name ++ ":" ++ column.typeLabel
  "  " ++ entry.1 ++ " -> [" ++ ", ".intercalate columns ++ "]\n"

/-- A node and the columns on its outputs. -/
def nodeLines (node : Node) : String :=
  node.id ++ " (" ++ node.schema.id ++ ")\n"
    ++ String.join (node.metadata.outputColumns.entries.map portLine)

/-- The line of an algorithm in the table of algorithms. -/
def algorithmLine (schema : Schema) : String :=
  padded 10 schema.category.word ++ " " ++ padded 16 schema.id ++ " " ++ schema.label ++ "\n"

/-- Make a listing. -/
def compileScript (config : Config) (document : String) (root : Option String) (noPreview : Bool)
    (output : Option String) : Script :=
  let settings :=
    { config with
      rootDir := root.or config.rootDir
      emitPreview := config.emitPreview && !noPreview }
  withSession document .empty settings fun session =>
    match session.code.2, output with
    | .error overdraw, _ => .finish (.broken overdraw.message)
    | .ok code, some path => writeAndEnd path code
    | .ok code, none => printAndEnd code

/-- Show statuses. -/
def statusScript (config : Config) (document : String) : Script :=
  withSession document .empty config fun session =>
    printAndEnd (String.join (session.statuses.map (statusLine session.document)))

/-- Find columns. -/
def propagateScript (config : Config) (document : String) (library url output : Option String) :
    Script :=
  withLibrary config library url fun library =>
    withSession document library config fun session =>
      match session.propagate with
      | (_, .cycle cycle) => .fail (Error.cycle cycle).message
      | (_, .overdrawn overdraw) => .finish (.broken overdraw.message)
      | (session, _) =>
        .print (String.join (session.document.nodes.map nodeLines)) <|
          match output with
          | some path => writeAndEnd path session.document.toJson.pretty
          | none => .finish .done

/-- Show algorithms. -/
def describeScript (algorithm : Option String) : Script :=
  match algorithm with
  | none => printAndEnd (String.join (Catalog.registry.schemas.map algorithmLine))
  | some name =>
    match Catalog.registry.schema? name with
    | some schema => printAndEnd (schema.toJson.pretty ++ "\n")
    | none => .fail (Error.unknownAlgorithm name).message

/-- What a command does under some settings. -/
def script (config : Config) : Command → Script
  | .compile document root noPreview output =>
    compileScript config document root noPreview output
  | .status document => statusScript config document
  | .propagate document library url output => propagateScript config document library url output
  | .describe algorithm => describeScript algorithm

end Command

/-- The line that shows the version. -/
def versionLine : String := "pipeline 0.1.0\n"

/-- What a command line does. -/
def commandLine (args : List String) : Script :=
  match Arguments.read? args with
  | none => .finish .usage
  | some .version => Command.printAndEnd versionLine
  | some (.run directory command) => Command.withConfig directory command.script

end Dataflow
