/-!
# Blank characters

The characters with the property White_Space, and the two uses that a listing makes of them: the
end of a text is trimmed, and a text that holds nothing else is left out.
-/

namespace Dataflow.Text

/-- Whether a character has the property White_Space. -/
def isBlank (c : Char) : Bool :=
  let code := c.toNat
  (0x09 ≤ code && code ≤ 0x0D) || code == 0x20 || code == 0x85 || code == 0xA0 || code == 0x1680
    || (0x2000 ≤ code && code ≤ 0x200A) || code == 0x2028 || code == 0x2029 || code == 0x202F
    || code == 0x205F || code == 0x3000

/-- A text without the blank characters at its end. -/
def trimEnd (text : List Char) : List Char := (text.reverse.dropWhile isBlank).reverse

/-- Whether a text holds blank characters only. -/
def isBlankText (text : List Char) : Bool := text.all isBlank

end Dataflow.Text
