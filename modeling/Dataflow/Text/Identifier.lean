/-!
# Identifiers

An identifier is a letter or underscore followed by letters, digits and underscores, all of them
ASCII. Any text becomes part of an identifier once every other character is an underscore.
-/

namespace Dataflow.Text

/-- Whether a character may stand inside an identifier. -/
def isWordChar (c : Char) : Bool := c.isAlphanum || c == '_'

/-- Whether a character may begin an identifier. -/
def isWordStart (c : Char) : Bool := c.isAlpha || c == '_'

/-- Whether a text is an identifier. -/
def isIdentifier (text : String) : Bool :=
  match text.toList with
  | [] => false
  | c :: rest => isWordStart c && rest.all isWordChar

/-- The character itself if it may stand inside an identifier, and an underscore if not. -/
def wordChar (c : Char) : Char := if isWordChar c then c else '_'

/-- A text with every character outside identifiers replaced by an underscore. -/
def sanitize (text : String) : String := String.ofList (text.toList.map wordChar)

end Dataflow.Text
