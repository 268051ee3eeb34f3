import Dataflow.Json
import Dataflow.Json.Shape

/-!
# Written values

A value as a text writes it, before it is known whether it can be kept. A text may write numbers
beyond the range of floating-point numbers, and halves of surrogate pairs; it may also nest values
deeper than they are kept. This matters only where the value is looked at.
-/

namespace Dataflow.Json

/-- A value as a text writes it. -/
inductive Written where
  /-- A value without parts, or nothing if the value cannot be kept. -/
  | atom (value : Option Json)
  /-- A list of values. -/
  | array (items : List Written)
  /-- Named values in the order of the text. A name that cannot be kept is missing. -/
  | object (fields : List (Option String × Written))

namespace Written

mutual

/-- The value, as far as the shape looks at it, if all of that can be kept and is nested no deeper
than `depth`. -/
def value? : Shape → Nat → Written → Option Json
  | _, _, .atom value => value
  | shape, depth, .array items =>
    if depth = 0 then none else (itemValues? shape 0 (depth - 1) items).map .array
  | shape, depth, .object fields =>
    if depth = 0 then none
    else (fieldValues? shape (depth - 1) fields).map fun kept =>
      .object (kept.foldl (fun sorted field => insertEntry field.1 field.2 sorted) [])

/-- The values of the items of a list from a place on. -/
def itemValues? : Shape → Nat → Nat → List Written → Option (List Json)
  | _, _, _, [] => some []
  | shape, place, depth, item :: rest =>
    match value? (shape.item place) depth item with
    | none => none
    | some value => (itemValues? shape (place + 1) depth rest).map fun values => value :: values

/-- The values of the fields that are looked at. All names must be such that they can be kept. -/
def fieldValues? : Shape → Nat → List (Option String × Written) → Option (List (String × Json))
  | _, _, [] => some []
  | _, _, (none, _) :: _ => none
  | shape, depth, (some name, field) :: rest =>
    match shape.field? name with
    | none => fieldValues? shape depth rest
    | some inner =>
      match value? inner depth field with
      | none => none
      | some value => (fieldValues? shape depth rest).map fun values => (name, value) :: values

end

end Written

end Dataflow.Json
