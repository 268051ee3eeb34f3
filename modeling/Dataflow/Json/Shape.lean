/-!
# Shapes of records

What is looked at where a record is read from a text: the fields that the record declares, and of
their values what their own shapes say. A field that is not declared is passed over.
-/

namespace Dataflow.Json

/-- What is looked at in a value. -/
inductive Shape where
  /-- The whole value. -/
  | whole
  /-- The fields that a record declares, in the order of their declaration. -/
  | record (fields : List (String × Shape))
  /-- All items of a list, each with the same shape. -/
  | listOf (item : Shape)
  /-- All entries of a dictionary, each with the same shape. -/
  | dictionaryOf (value : Shape)

namespace Shape

/-- The shape of a record whose fields are looked at as a whole. -/
def plain (names : List String) : Shape := .record (names.map fun name => (name, .whole))

/-- What is looked at in the field with a name, unless the field is passed over. -/
def field? : Shape → String → Option Shape
  | .record fields, name => fields.lookup name
  | .dictionaryOf value, _ => some value
  | _, _ => some .whole

/-- What is looked at in the item at a place of a list. -/
def item : Shape → Nat → Shape
  | .record fields, place => (fields[place]?.map Prod.snd).getD .whole
  | .listOf item, _ => item
  | _, _ => .whole

end Shape

end Dataflow.Json
