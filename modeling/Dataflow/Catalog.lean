import Dataflow.Registry
import Dataflow.Transform.Choice
import Dataflow.Transform.Concat
import Dataflow.Transform.Encode
import Dataflow.Transform.Group
import Dataflow.Transform.Merge
import Dataflow.Transform.Rename
import Dataflow.Transform.Rows

/-!
# The catalog

The algorithms that come with the library: two sources, one sink, the transforms of data frames, and
the placeholder of a node without an algorithm.
-/

namespace Dataflow.Catalog

/-- The label of the type of all ports. -/
def frameType : String := "dataframe"

/-- The inputs with given names, which must be connected. -/
def inputs (names : List String) : List Port := names.map fun name => .needed name frameType

/-- The outputs with given names. -/
def outputs (names : List String) : List Port := names.map fun name => .optional name frameType

/-- A transform with one output. -/
def transformSchema (id label template : String) (inputNames : List String)
    (parameters : List Parameter) : Schema where
  id := id
  category := .transform
  label := label
  inputs := inputs inputNames
  outputs := outputs ["data"]
  parameters := parameters
  template := .flat template
  fetch := none

/-- Read a file of comma-separated values. -/
def csvInput : Schema where
  id := "csv-input"
  category := .source
  label := "CSV Input"
  inputs := []
  outputs := outputs ["data"]
  parameters :=
    [(Parameter.plain "filepath" "path" (.string "")).withPriority 0,
      .plain "sep" "string" (.string ","), .plain "index_column" "columns" .null]
  template := .flat
    "\x7bdata\x7d = pd.read_csv(\x7bfilepath\x7d, sep=\x7bsep\x7d, index_col=\x7bindex_column\x7d)"
  fetch := some { source := .file "filepath", indexParameter := some "index_column" }

/-- Copy a variable of the environment. -/
def dataframeInput : Schema where
  id := "dataframe-input"
  category := .source
  label := "DataFrame Input"
  inputs := []
  outputs := outputs ["data"]
  parameters := [.plain "variable" "variable" (.string "df")]
  template := .flat "\x7bdata\x7d = \x7bvariable\x7d.copy()"
  fetch := some { source := .variable "variable", indexParameter := none }

/-- Put two frames on top of each other. -/
def concat : Schema :=
  transformSchema "concat" "Concat"
    "\x7bdata\x7d = pd.concat([\x7bfirst\x7d, \x7bsecond\x7d], ignore_index=True)"
    ["first", "second"] []

/-- Apply a function of the user. -/
def customCode : Schema :=
  transformSchema "custom-code" "Custom Code"
    "\x7bdata\x7d = \x7bframe\x7d.pipe(\x7bfunction\x7d)" ["frame"]
    [.plain "function" "variable" (.string "transform"), .plain "columns" "columns" (.array [])]

/-- Drop columns. -/
def dropColumns : Schema :=
  transformSchema "drop-columns" "Drop Columns"
    "\x7bdata\x7d = \x7bframe\x7d.drop(columns=\x7bcolumns\x7d)" ["frame"]
    [.plain "columns" "columns" (.array [])]

/-- Drop rows without a value. -/
def dropMissing : Schema :=
  transformSchema "drop-missing" "Drop Missing"
    "\x7bdata\x7d = \x7bframe\x7d.dropna(subset=\x7bsubset\x7d)" ["frame"]
    [.plain "subset" "columns" .null]

/-- Keep the rows that an expression accepts. -/
def filterRows : Schema :=
  transformSchema "filter-rows" "Filter Rows"
    "\x7bdata\x7d = \x7bframe\x7d.query(\x7bexpression\x7d)" ["frame"]
    [.plain "expression" "expression" (.string "")]

/-- Group rows and aggregate columns. -/
def groupBy : Schema :=
  transformSchema "group-by" "Group By"
    "\x7bdata\x7d = \x7bframe\x7d.groupby(\x7bby\x7d, as_index=False).agg(\x7baggregations\x7d)"
    ["frame"]
    [(Parameter.plain "by" "columns" (.array [])).withPriority 0,
      (Parameter.plain "aggregations" "mapping" (.object [])).withPriority 1]

/-- Join two frames. The kind of join is a bare word, so the template has the quotes. -/
def merge : Schema :=
  transformSchema "merge" "Merge"
    "\x7bdata\x7d = pd.merge(\x7bleft\x7d, \x7bright\x7d, how='\x7bhow\x7d', on=\x7bon\x7d)"
    ["left", "right"]
    [.plain "how" "choice" (.string "inner"), .plain "on" "columns" .null]

/-- Encode columns by their categories. -/
def oneHotEncode : Schema where
  id := "one-hot-encode"
  category := .transform
  label := "One-Hot Encode"
  inputs := inputs ["data"]
  outputs := outputs ["encoded"]
  parameters := [.plain "columns" "columns" (.array []), .plain "drop_first" "bool" (.bool false)]
  template := .call "pd.get_dummies"
  fetch := none

/-- Rename columns. -/
def renameColumns : Schema :=
  transformSchema "rename-columns" "Rename Columns"
    "\x7bdata\x7d = \x7bframe\x7d.rename(columns=\x7bmapping\x7d)" ["frame"]
    [.plain "mapping" "mapping" (.object [])]

/-- Keep columns. -/
def selectColumns : Schema :=
  transformSchema "select-columns" "Select Columns"
    "\x7bdata\x7d = \x7bframe\x7d[\x7bcolumns\x7d]" ["frame"]
    [.plain "columns" "columns" (.array [])]

/-- Order rows. -/
def sortRows : Schema :=
  transformSchema "sort-rows" "Sort Rows"
    "\x7bdata\x7d = \x7bframe\x7d.sort_values(by=\x7bby\x7d, ascending=\x7bascending\x7d)" ["frame"]
    [.plain "by" "columns" (.array []), .plain "ascending" "bool" (.bool true)]

/-- Write a file of comma-separated values. -/
def csvOutput : Schema where
  id := "csv-output"
  category := .sink
  label := "CSV Output"
  inputs := inputs ["frame"]
  outputs := []
  parameters :=
    [(Parameter.plain "filepath" "path" (.string "output.csv")).withPriority 0,
      .plain "index" "bool" (.bool false)]
  template := .flat "\x7bframe\x7d.to_csv(\x7bfilepath\x7d, index=\x7bindex\x7d)"
  fetch := none

/-- The placeholder of a node without an algorithm. -/
def unassigned : Schema := { Schema.unassigned with label := "Unassigned" }

/-- All algorithms of the catalog. -/
def registrations : List Registration :=
  [⟨csvInput, none⟩, ⟨dataframeInput, none⟩, ⟨concat, some Transform.concat⟩,
    ⟨customCode, some Transform.customCode⟩, ⟨dropColumns, some Transform.dropColumns⟩,
    ⟨dropMissing, some Transform.dropMissing⟩, ⟨filterRows, some Transform.filterRows⟩,
    ⟨groupBy, some Transform.groupBy⟩, ⟨merge, some Transform.merge⟩,
    ⟨oneHotEncode, some Transform.oneHotEncode⟩, ⟨renameColumns, some Transform.renameColumns⟩,
    ⟨selectColumns, some Transform.selectColumns⟩, ⟨sortRows, some Transform.sortRows⟩,
    ⟨csvOutput, none⟩, ⟨unassigned, none⟩]

/-- The algorithm with a name. -/
def find? (name : String) : Option Registration :=
  registrations.find? fun registration => registration.schema.id == name

/-- A registry of all algorithms of the catalog. None of them is refused. -/
def registry : Registry :=
  match Registry.empty.registerAll registrations with
  | .ok registry => registry
  | .error _ => .empty

end Dataflow.Catalog
