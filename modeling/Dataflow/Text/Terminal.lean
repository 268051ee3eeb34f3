/-!
# Terminal control

A terminal takes some characters as orders to itself: the control characters, and the sequences that
begin with the escape character. What is left without them is the text that a reader sees. Tabs,
line breaks, form feeds and carriage returns belong to the text.

A tab or a line break inside a sequence interrupts it. The text from there on is shown, and the next
control character takes the sequence up again.
-/

namespace Dataflow.Text.Terminal

/-- The sequence that a character stands in, by the characters in front of it. -/
inductive Mode where
  /-- No sequence. -/
  | plain
  /-- A sequence of which only the escape character is known. -/
  | escape
  /-- A sequence that ends with its next letter or digit. -/
  | short
  /-- A sequence of parameters, up to a final letter. -/
  | control
  /-- A command to the system around the terminal, up to a bell. -/
  | command
  /-- The start of the parameters in front of a string. -/
  | header
  /-- Parameters in front of a string. -/
  | parameters
  /-- Marks between the parameters and a string. -/
  | marks
  /-- A string, up to its terminator. -/
  | string
  deriving DecidableEq

/-- How far a text has been read. -/
structure Reading where
  /-- The sequence that was begun last and has not ended. -/
  mode : Mode
  /-- Whether the last character was shown, so that the sequence is interrupted. -/
  isShowing : Bool

/-- Whether a control character belongs to the text: a tab, a line break, a form feed or a carriage
return. -/
def isSpacing (c : Char) : Bool := c = '\t' || c = '\n' || c.toNat = 0x0C || c = '\r'

/-- Whether a character is above 7F. -/
def isWide (c : Char) : Bool := 0x7F < c.toNat

/-- Whether a character belongs to the text where no sequence is open. -/
def isText (c : Char) : Bool := isSpacing c || (0x20 ≤ c.toNat && c.toNat ≠ 0x7F)

/-- Whether a character holds the string terminator, the byte 9C, when it is written in bytes. -/
def holdsTerminator (c : Char) : Bool := (String.utf8EncodeChar c).contains 0x9C

/-- The sequence that a character after the escape character opens. -/
def opened (c : Char) : Mode :=
  if c = '[' then .control
  else if c = ']' then .command
  else if c = 'P' then .header
  else if c = 'X' || c = '^' || c = '_' then .string
  else if c.toNat < 0x30 then .short
  else .plain

namespace Mode

/-- Whether a character is shown. Spacing stands out of a sequence of letters, but it is a part of a
command or a string. -/
def shows : Mode → Char → Bool
  | .plain, c => isText c
  | .escape, c | .short, c | .control, c => isSpacing c
  | _, _ => false

/-- The sequence after a control character that is not shown. -/
def afterControl (mode : Mode) (c : Char) : Mode :=
  if c.toNat = 0x1B then .escape
  else if c.toNat = 0x18 || c.toNat = 0x1A then .plain
  else if mode = .command && c.toNat = 0x07 then .plain
  else mode

/-- The sequence after a character from 20 to 7E that is not shown. -/
def afterLetter (mode : Mode) (c : Char) : Mode :=
  match mode with
  | .plain => .plain
  | .escape => opened c
  | .short => if c.toNat < 0x30 then .short else .plain
  | .control => if c.toNat < 0x40 then .control else .plain
  | .header =>
    if c.toNat < 0x30 then .marks else if c.toNat < 0x40 then .parameters else .string
  | .parameters =>
    if c.toNat < 0x30 then .marks else if c.toNat < 0x3C then .parameters else .string
  | .marks => if c.toNat < 0x30 then .marks else .string
  | .command | .string => mode

/-- The sequence after a character that is not shown. The character 7F does nothing. -/
def after (mode : Mode) (c : Char) : Mode :=
  if c.toNat < 0x20 then mode.afterControl c
  else if c.toNat < 0x7F then mode.afterLetter c
  else if mode = .string && isWide c && holdsTerminator c then .plain
  else mode

end Mode

namespace Reading

/-- Before the first character. -/
def start : Reading := ⟨.plain, false⟩

/-- Whether the next character is shown. -/
def shows (reading : Reading) (c : Char) : Bool :=
  if reading.isShowing then isText c else reading.mode.shows c

/-- Read a character. A character above 7F that is shown ends an interrupted sequence. -/
def next (reading : Reading) (c : Char) : Reading :=
  if reading.shows c then ⟨if isWide c then .plain else reading.mode, true⟩
  else ⟨reading.mode.after c, false⟩

/-- The characters that are shown from here on. -/
def shown : Reading → List Char → List Char
  | _, [] => []
  | reading, c :: rest =>
    if reading.shows c then c :: shown (reading.next c) rest else shown (reading.next c) rest

end Reading

/-- The text that a reader sees. -/
def visible (text : List Char) : List Char := Reading.start.shown text

end Dataflow.Text.Terminal
