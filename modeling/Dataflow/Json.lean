import Dataflow.Decimal
import Dataflow.Dictionary

/-!
# JSON values

The values that parameters hold and records are written as. Whole numbers and floating-point numbers
are different values. The fields of an object are a list; a value that is read has them in key order
and without repeats, while a record is written with its fields in the order of their declaration.
-/

namespace Dataflow

/-- A JSON value. -/
inductive Json where
  /-- The value without content. -/
  | null
  /-- A truth value. -/
  | bool (value : Bool)
  /-- A whole number. -/
  | int (value : Int)
  /-- A floating-point number. -/
  | float (value : Decimal)
  /-- A text. -/
  | string (value : String)
  /-- A list of values. -/
  | array (items : List Json)
  /-- Named values. -/
  | object (fields : List (String × Json))
  deriving Inhabited

namespace Json

/-- Whether a value is the one without content. -/
def isNull : Json → Bool
  | .null => true
  | _ => false

/-- The text of a text value. -/
def string? : Json → Option String
  | .string text => some text
  | _ => none

/-- The truth value of a truth value. -/
def bool? : Json → Option Bool
  | .bool value => some value
  | _ => none

/-- The items of a list. -/
def array? : Json → Option (List Json)
  | .array items => some items
  | _ => none

/-- The fields of an object. -/
def object? : Json → Option (List (String × Json))
  | .object fields => some fields
  | _ => none

/-- A whole number between two bounds. -/
def intBetween? (least greatest : Int) : Json → Option Int
  | .int value => if least ≤ value ∧ value ≤ greatest then some value else none
  | _ => none

/-- The value of a field. -/
def field? (name : String) : Json → Option Json
  | .object fields => fields.lookup name
  | _ => none

mutual

/-- The same value with the fields of every object in key order. -/
def sortFields : Json → Json
  | .array items => .array (sortItems items)
  | .object fields => .object (sortEntries fields)
  | other => other

/-- A list of values, each with its fields in key order. -/
def sortItems : List Json → List Json
  | [] => []
  | item :: rest => item.sortFields :: sortItems rest

/-- A list of fields in key order, each value with its own fields in key order. -/
def sortEntries : List (String × Json) → List (String × Json)
  | [] => []
  | (name, value) :: rest => insertEntry name value.sortFields (sortEntries rest)

end

mutual

/-- How deep lists and objects are nested in a value. -/
def depth : Json → Nat
  | .array items => itemsDepth items + 1
  | .object fields => entriesDepth fields + 1
  | _ => 0

/-- The greatest depth of the values in a list. -/
def itemsDepth : List Json → Nat
  | [] => 0
  | item :: rest => max item.depth (itemsDepth rest)

/-- The greatest depth of the values of fields. -/
def entriesDepth : List (String × Json) → Nat
  | [] => 0
  | (_, value) :: rest => max value.depth (entriesDepth rest)

end

/-- The depth to which the values in files and texts may be nested. -/
def nestingLimit : Nat := 127

end Json

end Dataflow
