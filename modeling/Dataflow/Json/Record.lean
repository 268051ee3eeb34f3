import Dataflow.Json

/-!
# Records

How records are written as JSON. A record is an object with its fields by name, or a list with its
fields in the order of their declaration; fields at the end of a list may be missing like fields of
an object. A variant carries its name in a tag, which comes first in a list. Unknown fields are
passed over.
-/

namespace Dataflow

/-- The fields of a record, by name or by place. -/
inductive Record where
  /-- Fields by name. -/
  | named (fields : List (String × Json))
  /-- Fields in the order of declaration. -/
  | placed (items : List Json)

namespace Record

/-- The field with this place in the declaration and this name, if it is present. -/
def get? : Record → Nat → String → Option Json
  | .named fields, _, name => fields.lookup name
  | .placed items, place, _ => items[place]?

/-- Whether a record has no more than `count` fields by place. -/
def fits : Record → Nat → Bool
  | .named _, _ => true
  | .placed items, count => items.length ≤ count

/-- Read a field that must be present. -/
def required {α : Type} (record : Record) (place : Nat) (name : String)
    (read : Json → Option α) : Option α :=
  (record.get? place name).bind read

/-- Read a field that has a default. -/
def optional {α : Type} (record : Record) (place : Nat) (name : String) (fallback : α)
    (read : Json → Option α) : Option α :=
  match record.get? place name with
  | some value => read value
  | none => some fallback

end Record

namespace Json

/-- The fields of a record with at most `count` fields. -/
def record? (count : Nat) : Json → Option Record
  | .object fields => some (.named fields)
  | .array items => if items.length ≤ count then some (.placed items) else none
  | _ => none

/-- The name of a variant, which `name?` reads from its tag, and the fields beside the tag. -/
def variantBy? (name? : Json → Option String) (tag : String) : Json → Option (String × Record)
  | .object fields =>
    ((fields.lookup tag).bind name?).map fun name => (name, .named fields)
  | .array (first :: items) => (name? first).map fun name => (name, .placed items)
  | _ => none

/-- The tag of a variant and the fields beside it. -/
def variant? (tag : String) (value : Json) : Option (String × Record) :=
  value.variantBy? string? tag

/-- A name out of a list, given as a text or by its place in the list. A text is not looked up. -/
def nameOrPlace? (names : List String) : Json → Option String
  | .string name => some name
  | .int place => if 0 ≤ place then names[place.toNat]? else none
  | _ => none

/-- A word out of a fixed set: the word as a text, or as the only field of an object without
content. -/
def word? : Json → Option String
  | .string word => some word
  | .object [(word, .null)] => some word
  | _ => none

/-- A word like that of `word?`, where the object may also hold an object without fields. -/
def looseWord? : Json → Option String
  | .object [(word, .object [])] => some word
  | other => other.word?

/-- Read a value that may be absent. -/
def nullable {α : Type} (read : Json → Option α) : Json → Option (Option α)
  | .null => some none
  | value => (read value).map some

/-- Read every item of a list. -/
def readAll {α : Type} (read : Json → Option α) : List Json → Option (List α)
  | [] => some []
  | item :: rest =>
    match read item, readAll read rest with
    | some value, some values => some (value :: values)
    | _, _ => none

/-- Read the value of every field. -/
def readEntries {α : Type} (read : Json → Option α) :
    List (String × Json) → Option (List (String × α))
  | [] => some []
  | (name, item) :: rest =>
    match read item, readEntries read rest with
    | some value, some values => some ((name, value) :: values)
    | _, _ => none

/-- Read a list. -/
def listOf {α : Type} (read : Json → Option α) (value : Json) : Option (List α) :=
  value.array?.bind (readAll read)

/-- Read a dictionary. -/
def dictionaryOf {α : Type} (read : Json → Option α) (value : Json) : Option (Dictionary α) :=
  (value.object?.bind (readEntries read)).map Dictionary.ofList

/-- Read a dictionary of values as they are. -/
def dictionary? (value : Json) : Option (Dictionary Json) := dictionaryOf some value

/-- Read a whole number of 32 bits. -/
def word32? (value : Json) : Option UInt32 :=
  (value.intBetween? 0 4294967295).map fun n => UInt32.ofNat n.toNat

/-- Read a whole number of 32 bits, one of which is its sign. -/
def signedWord32? (value : Json) : Option Int32 :=
  (value.intBetween? (-2147483648) 2147483647).map Int32.ofInt

/-- Read a count. -/
def count? (value : Json) : Option Nat :=
  (value.intBetween? 0 18446744073709551615).map Int.toNat

/-- Write a dictionary. -/
def ofDictionary {α : Type} (write : α → Json) (dict : Dictionary α) : Json :=
  .object (dict.entries.map fun entry => (entry.1, write entry.2))

/-- Write a value that may be absent. -/
def ofOption {α : Type} (write : α → Json) : Option α → Json
  | some value => write value
  | none => .null

/-- A field that is left out if it is absent. -/
def presentField {α : Type} (name : String) (write : α → Json) :
    Option α → List (String × Json)
  | some value => [(name, write value)]
  | none => []

end Json

end Dataflow
