/-!
# Quoted text

A text in single quotes. A backslash is written twice, and a quote is written after a backslash, so
the first quote that no backslash precedes ends the text.
-/

namespace Dataflow.Text

/-- A text as it stands between the quotes. -/
def escape : List Char → List Char
  | [] => []
  | c :: rest =>
    if c = '\\' ∨ c = '\'' then '\\' :: c :: escape rest else c :: escape rest

/-- A text in quotes. -/
def quoteChars (text : List Char) : List Char := '\'' :: (escape text ++ ['\''])

/-- A text in quotes. -/
def quote (text : String) : String := String.ofList (quoteChars text.toList)

end Dataflow.Text
