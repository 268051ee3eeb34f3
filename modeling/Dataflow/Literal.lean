import Dataflow.Json
import Dataflow.Text.Identifier
import Dataflow.Text.Quoted

/-!
# Literals

How values are written in a listing. A text that is an identifier names a variable and stands bare;
inside a list or a mapping every text is quoted. The value of a file parameter is a path, which is
put under the folder of data sets and under a root directory if there is one.
-/

namespace Dataflow.Literal

mutual

/-- A value in which every text is quoted. -/
def nested : Json → List Char
  | .null => "None".toList
  | .bool true => "True".toList
  | .bool false => "False".toList
  | .int value => Decimal.signedDigits value
  | .float value => value.text
  | .string value => Text.quoteChars value.toList
  | .array items => '[' :: (", ".toList.intercalate (nestedItems items) ++ [']'])
  | .object fields => '\x7b' :: (", ".toList.intercalate (nestedFields fields) ++ ['\x7d'])

/-- The literals of the items of a list. -/
def nestedItems : List Json → List (List Char)
  | [] => []
  | item :: rest => nested item :: nestedItems rest

/-- The literals of the entries of a mapping. -/
def nestedFields : List (String × Json) → List (List Char)
  | [] => []
  | (name, value) :: rest =>
    (Text.quoteChars name.toList ++ ':' :: ' ' :: nested value) :: nestedFields rest

end

/-- A value as it stands in a listing. -/
def value : Json → List Char
  | .string text => if Text.isIdentifier text then text.toList else nested (.string text)
  | other => nested other

/-- The parameter whose value is a path. -/
def fileParameter : String := "filepath"

/-- The start of the path of every data set. -/
def datasetFolder : List Char := "dataset/".toList

/-- The separator of paths: a slash in place of a backslash. -/
def slashed (c : Char) : Char := if c = '\\' then '/' else c

/-- A path without a mark of the current directory or a separator at its start. -/
def stripStart (path : List Char) : List Char :=
  let bare := match path with
    | '.' :: '/' :: rest => rest
    | other => other
  bare.dropWhile (· == '/')

/-- A path with slashes, under the folder of data sets. -/
def datasetPath (path : List Char) : List Char :=
  let relative := stripStart (path.map slashed)
  if datasetFolder.isPrefixOf relative then relative else datasetFolder ++ relative

/-- The separator of a root directory: a backslash only if it has one and no slash. -/
def separator (root : List Char) : Char :=
  if root.contains '\\' && !root.contains '/' then '\\' else '/'

/-- A root directory without separators at its end. -/
def trimRoot (root : List Char) : List Char :=
  (root.reverse.dropWhile (· == separator root)).reverse

/-- A path under a root directory, with the separator of the root. -/
def joinRoot (root path : List Char) : List Char :=
  let sep := separator root
  trimRoot root ++ sep :: path.map fun c => if c = '/' then sep else c

/-- The path of a data set under a root directory; an absent or empty root leaves it relative. -/
def resolvePath (path : List Char) (root : Option String) : List Char :=
  match root with
  | none => datasetPath path
  | some root =>
    if root.toList.isEmpty then datasetPath path else joinRoot root.toList (datasetPath path)

/-- The path of a data set as a quoted text. -/
def filePath (path : String) (root : Option String) : List Char :=
  Text.quoteChars (resolvePath path.toList root)

/-- The value of a parameter as it stands in a listing. -/
def parameter (name : String) (root : Option String) : Json → List Char
  | .string text =>
    if name = fileParameter && !text.toList.isEmpty then filePath text root
    else value (.string text)
  | other => value other

end Dataflow.Literal
