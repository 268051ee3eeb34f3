import Dataflow.Json.Printer

/-!
# Errors

Every way in which an operation can fail, as a cause, and the text that a user sees for it. Each
part of the library has its own causes; `Error` joins them.
-/

namespace Dataflow

/-- The graph has a cycle. -/
structure Cycle where
  /-- The nodes that could not be put in order, in document order. -/
  unsorted : List String
  deriving DecidableEq

/-- A link came up into a node whose count of links was used up. The count cannot go below zero. -/
structure Overdraw where
  /-- The node that the link enters. -/
  target : String
  deriving DecidableEq

/-- Why the nodes of a graph have no queue order. -/
inductive OrderError where
  /-- The graph has a cycle. -/
  | cycle (found : Cycle)
  /-- A link came up that was not counted. -/
  | overdrawn (found : Overdraw)
  deriving DecidableEq

/-- Why a column transform rejects its inputs. -/
inductive TransformError where
  /-- The value of a parameter is not a list of names. -/
  | notNames (parameter : String)
  /-- A named column does not arrive. -/
  | unknownColumn (name : String)
  /-- Two columns would have the same name. -/
  | duplicateColumn (name : String)
  /-- The value of a parameter is not a mapping. -/
  | notMapping (parameter : String)
  /-- A column is mapped to something other than a name. -/
  | notNewName (column : String)
  /-- A column is aggregated by something other than a function. -/
  | notFunction (column : String)
  /-- The kind of join is not one of the known ones. -/
  | unknownJoin (known : List String) (given : Option Json)
  /-- Another reason, with its own text. -/
  | failed (detail : String)

/-- Why an algorithm cannot be registered. -/
inductive RegistryError where
  /-- A transform comes without a column transform. -/
  | missingTransform (algorithm : String)
  /-- A source comes without a fetch description. -/
  | missingFetch (algorithm : String)
  /-- A fetch description names a parameter that is not declared. -/
  | unknownFetchParameter (algorithm parameter : String)
  deriving DecidableEq

/-- What a library is asked for. -/
inductive Resource where
  /-- The schema of an algorithm. -/
  | schema
  /-- The columns of a file. -/
  | file
  /-- The columns of a variable. -/
  | variable
  deriving DecidableEq

/-- Why a library has no answer. -/
inductive LibraryError where
  /-- What was asked for is not known. -/
  | notFound (resource : Resource) (key : String)
  /-- The data of the library do not describe one. -/
  | invalid
  /-- The data of the library cannot be read. -/
  | unreadable
  /-- Another reason, with its own text. -/
  | failed (detail : String)
  deriving DecidableEq

/-- Why a store refuses an operation. -/
inductive StoreError where
  /-- There is no cell with this index among so many. -/
  | cellOutOfRange (index count : Nat)
  /-- The document lists a node that has no record. -/
  | missingNode (id : String)
  deriving DecidableEq

/-- Why an operation fails. -/
inductive Error where
  /-- No node has this id. -/
  | nodeNotFound (id : String)
  /-- A node with this id exists already. -/
  | duplicateNode (id : String)
  /-- No edge has this id. -/
  | edgeNotFound (id : String)
  /-- A node declares no such port. -/
  | unknownPort (node port : String)
  /-- An edge enters this input already. -/
  | portConnected (node port : String)
  /-- The counter of the document has reached its end. -/
  | ordinalsExhausted
  /-- No algorithm has this name. -/
  | unknownAlgorithm (algorithm : String)
  /-- The graph has a cycle. -/
  | cycle (found : Cycle)
  /-- A link came up that was not counted. -/
  | overdrawn (found : Overdraw)
  /-- An algorithm cannot be registered. -/
  | registry (cause : RegistryError)
  /-- The library has no answer. -/
  | library (cause : LibraryError)
  /-- A column transform rejects its inputs. -/
  | transform (cause : TransformError)
  /-- The store refuses an operation. -/
  | store (cause : StoreError)
  /-- The execution of code failed. -/
  | execution (detail : String)
  /-- A text or a stored record does not describe what it should. -/
  | unreadable
  /-- A snapshot cannot be made small. -/
  | compression (detail : String)

namespace Cycle

/-- The text for a cycle. -/
def message (cycle : Cycle) : String :=
  "Cycle detected in graph; " ++ toString cycle.unsorted.length
    ++ " node(s) could not be ordered"

end Cycle

/-- The text for a count that is used up. -/
def Overdraw.message (_ : Overdraw) : String := "attempt to subtract with overflow"

namespace TransformError

/-- The text for a rejected transform. -/
def message : TransformError → String
  | .notNames parameter => "'" ++ parameter ++ "' must be a list of column names"
  | .unknownColumn name => "unknown column '" ++ name ++ "'"
  | .duplicateColumn name => "duplicate column '" ++ name ++ "'"
  | .notMapping parameter => "'" ++ parameter ++ "' must be an object"
  | .notNewName column => "new name for '" ++ column ++ "' must be a string"
  | .notFunction column => "aggregation for '" ++ column ++ "' must be a function name"
  | .unknownJoin known given =>
    "'how' must be one of " ++ ", ".intercalate known ++ ", got "
      ++ (given.map Json.compact).getD "nothing"
  | .failed detail => detail

end TransformError

namespace RegistryError

/-- The text for a rejected registration. -/
def message : RegistryError → String
  | .missingTransform algorithm =>
    "Transform algorithm '" ++ algorithm ++ "' has no column transform"
  | .missingFetch algorithm => "Source algorithm '" ++ algorithm ++ "' has no fetch descriptor"
  | .unknownFetchParameter algorithm parameter =>
    "Fetch descriptor of '" ++ algorithm ++ "' names unknown parameter '" ++ parameter ++ "'"

end RegistryError

/-- The word for what a library is asked for. -/
def Resource.word : Resource → String
  | .schema => "schema"
  | .file => "file"
  | .variable => "variable"

namespace LibraryError

/-- The text for a library without an answer. -/
def message : LibraryError → String
  | .notFound resource key => "Not found: " ++ resource.word ++ " '" ++ key ++ "'"
  | .invalid => "Invalid library data"
  | .unreadable => "I/O error"
  | .failed detail => detail

end LibraryError

namespace StoreError

/-- The text for a store that refuses. -/
def message : StoreError → String
  | .cellOutOfRange index count =>
    "cell index " ++ toString index ++ " out of range (" ++ toString count ++ " cell(s))"
  | .missingNode id => "missing record for node '" ++ id ++ "'"

end StoreError

namespace Error

/-- The text for a failed operation. -/
def message : Error → String
  | .nodeNotFound id => "Node not found: " ++ id
  | .duplicateNode id => "Duplicate node id: " ++ id
  | .edgeNotFound id => "Edge not found: " ++ id
  | .unknownPort node port => "Unknown port '" ++ port ++ "' on node '" ++ node ++ "'"
  | .portConnected node port =>
    "Input '" ++ port ++ "' on node '" ++ node ++ "' is already connected"
  | .ordinalsExhausted => "No ordinals left in this document"
  | .unknownAlgorithm algorithm => "Unknown algorithm: " ++ algorithm
  | .cycle found => found.message
  | .overdrawn found => found.message
  | .registry cause => "Registry error: " ++ cause.message
  | .library cause => "Library error: " ++ cause.message
  | .transform cause => "Transform failed: " ++ cause.message
  | .store cause => "Store error: " ++ cause.message
  | .execution detail => "Execution failed: " ++ detail
  | .unreadable => "Serialization error"
  | .compression detail => "Compression error: " ++ detail

end Error

end Dataflow
