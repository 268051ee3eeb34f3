import Dataflow.Text.HiddenTable
import Dataflow.Text.Ranges

/-!
# Shown text

A text in double quotes, written so that each of its characters can be seen: the quote and the
backslash follow a backslash, the common controls have a letter, and every other character without
a glyph of its own is written by its number.
-/

namespace Dataflow.Text

/-- Whether a character has no glyph of its own. -/
def isHidden (c : Char) : Bool := inRanges hiddenRanges c

/-- A character by its number: `\u` and the hexadecimal digits in braces. -/
def numbered (c : Char) : List Char :=
  ['\\', 'u', '\x7b'] ++ Nat.toDigits 16 c.toNat ++ ['\x7d']

/-- One character as it stands between the quotes. -/
def showChar (c : Char) : List Char :=
  if c = '\x00' then ['\\', '0']
  else if c = '\t' then ['\\', 't']
  else if c = '\r' then ['\\', 'r']
  else if c = '\n' then ['\\', 'n']
  else if c = '\\' ∨ c = '"' then ['\\', c]
  else if isHidden c then numbered c
  else [c]

/-- A text in double quotes with all of its characters visible. -/
def shown (text : String) : String :=
  String.ofList ('"' :: (text.toList.flatMap showChar ++ ['"']))

end Dataflow.Text
