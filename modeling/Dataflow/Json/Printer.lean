import Dataflow.Json

/-!
# Writing JSON text

Two written forms of a value: the compact one without blanks, and the indented one with a line for
each item. Texts escape the quote, the backslash and the control characters below the blank, and
nothing else.
-/

namespace Dataflow.Json

/-- A number below sixteen as a hexadecimal digit. -/
def hexDigit (n : Nat) : Char := Nat.digitChar n

/-- A character as it stands in a written text. -/
def escapeChar (c : Char) : List Char :=
  if c = '"' then ['\\', '"']
  else if c = '\\' then ['\\', '\\']
  else if c.toNat < 0x20 then
    match c.toNat with
    | 0x08 => ['\\', 'b']
    | 0x09 => ['\\', 't']
    | 0x0A => ['\\', 'n']
    | 0x0C => ['\\', 'f']
    | 0x0D => ['\\', 'r']
    | code => ['\\', 'u', '0', '0', hexDigit (code / 16), hexDigit (code % 16)]
  else [c]

/-- A text in double quotes. -/
def quoted (text : String) : List Char := '"' :: (text.toList.flatMap escapeChar ++ ['"'])

/-- The written form of a value that holds no other values. -/
def scalar : Json → List Char
  | .null => "null".toList
  | .bool true => "true".toList
  | .bool false => "false".toList
  | .int value => Decimal.signedDigits value
  | .float value => value.text
  | .string value => quoted value
  | .array _ | .object _ => []

mutual

/-- The written form without blanks. -/
def compactChars : Json → List Char
  | .array items => '[' :: ([','].intercalate (compactItems items) ++ [']'])
  | .object fields => '\x7b' :: ([','].intercalate (compactFields fields) ++ ['\x7d'])
  | other => scalar other

/-- The compact forms of the items of a list. -/
def compactItems : List Json → List (List Char)
  | [] => []
  | item :: rest => compactChars item :: compactItems rest

/-- The compact forms of the fields of an object. -/
def compactFields : List (String × Json) → List (List Char)
  | [] => []
  | (name, value) :: rest => (quoted name ++ ':' :: compactChars value) :: compactFields rest

end

/-- The text of a value without blanks. -/
def compact (value : Json) : String := String.ofList (compactChars value)

/-- The start of a line at a depth of nesting: two blanks for each level. -/
def newline (depth : Nat) : List Char := '\n' :: List.replicate (2 * depth) ' '

/-- Items between two brackets, a line for each, or the bare brackets if there are none. -/
def block (opening closing : Char) (depth : Nat) (items : List (List Char)) : List Char :=
  if items.isEmpty then [opening, closing]
  else opening :: (newline (depth + 1) ++ (',' :: newline (depth + 1)).intercalate items
    ++ newline depth ++ [closing])

mutual

/-- The indented form at a depth of nesting. -/
def prettyChars (depth : Nat) : Json → List Char
  | .array items => block '[' ']' depth (prettyItems (depth + 1) items)
  | .object fields => block '\x7b' '\x7d' depth (prettyFields (depth + 1) fields)
  | other => scalar other

/-- The indented forms of the items of a list. -/
def prettyItems (depth : Nat) : List Json → List (List Char)
  | [] => []
  | item :: rest => prettyChars depth item :: prettyItems depth rest

/-- The indented forms of the fields of an object. -/
def prettyFields (depth : Nat) : List (String × Json) → List (List Char)
  | [] => []
  | (name, value) :: rest =>
    (quoted name ++ ':' :: ' ' :: prettyChars depth value) :: prettyFields depth rest

end

/-- The indented text of a value. -/
def pretty (value : Json) : String := String.ofList (prettyChars 0 value)

end Dataflow.Json
