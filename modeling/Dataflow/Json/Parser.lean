import Dataflow.Decimal.Nearest
import Dataflow.Json.Written

/-!
# Reading JSON text

A reader for the strict grammar of JSON: no trailing commas, no leading zeros, no control characters
in texts. Each reader takes the characters that are left and returns what it has read with the
characters after it.

A text writes a value that may be too large or too deep to be kept. It is read as far as a shape
looks at it, and only that part of it has to fit. A whole number that does not fit in 64 bits, and
a minus sign before a bare zero, are read as floating-point numbers.
-/

namespace Dataflow.Json

/-- A value together with the characters after it. -/
abbrev Read (α : Type) := Option (α × List Char)

/-- Whether a character may stand between the parts of a value. -/
def isSpace (c : Char) : Bool := c == ' ' || c == '\t' || c == '\n' || c == '\r'

/-- The characters after the blanks. -/
def skipSpace (cs : List Char) : List Char := cs.dropWhile isSpace

/-- The value of a digit in base ten. -/
def digit? (c : Char) : Option Nat := if c.isDigit then some (c.toNat - '0'.toNat) else none

/-- The value of a digit in base sixteen. -/
def hexValue? (c : Char) : Option Nat :=
  if c.isDigit then some (c.toNat - '0'.toNat)
  else if 'a' ≤ c ∧ c ≤ 'f' then some (c.toNat - 'a'.toNat + 10)
  else if 'A' ≤ c ∧ c ≤ 'F' then some (c.toNat - 'A'.toNat + 10)
  else none

/-- Four hexadecimal digits. -/
def readHex4 : List Char → Read Nat
  | a :: b :: c :: d :: rest =>
    match hexValue? a, hexValue? b, hexValue? c, hexValue? d with
    | some a, some b, some c, some d => some (((a * 16 + b) * 16 + c) * 16 + d, rest)
    | _, _, _, _ => none
  | _ => none

/-- The character of an escape with hexadecimal digits, after the letter. Two escapes make one
character if they are the halves of a surrogate pair; a half by itself makes none. -/
def readUnicode (cs : List Char) : Read (Option Char) :=
  match readHex4 cs with
  | none => none
  | some (high, rest) =>
    if 0xD800 ≤ high ∧ high < 0xDC00 then
      match rest with
      | '\\' :: 'u' :: more =>
        match readHex4 more with
        | none => none
        | some (low, after) =>
          if 0xDC00 ≤ low ∧ low < 0xE000 then
            some (some (Char.ofNat (0x10000 + (high - 0xD800) * 0x400 + (low - 0xDC00))), after)
          else some (none, rest)
      | _ => some (none, rest)
    else if 0xDC00 ≤ high ∧ high < 0xE000 then some (none, rest)
    else some (some (Char.ofNat high), rest)

/-- The character of an escape, after the backslash. -/
def readEscape : List Char → Read (Option Char)
  | '"' :: rest => some (some '"', rest)
  | '\\' :: rest => some (some '\\', rest)
  | '/' :: rest => some (some '/', rest)
  | 'b' :: rest => some (some (Char.ofNat 0x08), rest)
  | 'f' :: rest => some (some (Char.ofNat 0x0C), rest)
  | 'n' :: rest => some (some '\n', rest)
  | 'r' :: rest => some (some '\r', rest)
  | 't' :: rest => some (some '\t', rest)
  | 'u' :: rest => readUnicode rest
  | _ => none

/-- The characters of a text up to the closing quote, after the opening one. The characters that
are already read come last first; they are given up once an escape makes no character. -/
def readChars : Nat → Option (List Char) → List Char → Read (Option (List Char))
  | 0, _, _ => none
  | _ + 1, _, [] => none
  | fuel + 1, read, c :: rest =>
    if c = '"' then some (read.map List.reverse, rest)
    else if c = '\\' then
      match readEscape rest with
      | none => none
      | some (some escaped, rest) => readChars fuel (read.map fun read => escaped :: read) rest
      | some (none, rest) => readChars fuel none rest
    else if c.toNat < 0x20 then none
    else readChars fuel (read.map fun read => c :: read) rest

/-- A text, after the opening quote, unless it cannot be kept. -/
def readString (cs : List Char) : Read (Option String) :=
  (readChars (cs.length + 1) (some []) cs).map fun (chars, rest) =>
    (chars.map String.ofList, rest)

/-- The digits at the start of the characters, and what follows them. -/
def readDigits (cs : List Char) : List Char × List Char :=
  (cs.takeWhile Char.isDigit, cs.dropWhile Char.isDigit)

/-- The whole number that digits write. -/
def numberOf (digits : List Char) : Nat := Nat.ofDigitChars 10 digits 0

/-- Whole part of a number: digits, and no zero before other digits. -/
def readWhole (cs : List Char) : Read (List Char) :=
  match readDigits cs with
  | ([], _) => none
  | (['0'], rest) => some (['0'], rest)
  | ('0' :: _, _) => none
  | (digits, rest) => some (digits, rest)

/-- Digits after a point, none if there is no point. -/
def readFraction : List Char → Read (List Char)
  | '.' :: rest =>
    match readDigits rest with
    | ([], _) => none
    | (digits, rest) => some (digits, rest)
  | rest => some ([], rest)

/-- An exponent with its sign, nothing if there is no exponent. -/
def readExponent : List Char → Read (Option Int)
  | c :: rest =>
    if c = 'e' ∨ c = 'E' then
      let (negative, digits) := match rest with
        | '+' :: more => (false, more)
        | '-' :: more => (true, more)
        | more => (false, more)
      match readDigits digits with
      | ([], _) => none
      | (digits, rest) =>
        let value : Int := numberOf digits
        some (some (if negative then -value else value), rest)
    else some (none, c :: rest)
  | [] => some (none, [])

/-- A number as a text writes it. -/
structure Numeral where
  /-- Whether a minus sign stands in front. -/
  negative : Bool
  /-- The digits before the point. -/
  whole : List Char
  /-- The digits after the point, none if there is no point. -/
  fraction : List Char
  /-- The exponent, if there is one. -/
  exponent : Option Int

/-- Whether a minus sign stands at the start, and what follows it. -/
def readSign : List Char → Bool × List Char
  | '-' :: rest => (true, rest)
  | rest => (false, rest)

/-- A number as it is written. -/
def readNumeral (cs : List Char) : Read Numeral :=
  let (negative, cs) := readSign cs
  match readWhole cs with
  | none => none
  | some (whole, rest) =>
    match readFraction rest with
    | none => none
    | some (fraction, rest) =>
      match readExponent rest with
      | none => none
      | some (exponent, rest) => some (⟨negative, whole, fraction, exponent⟩, rest)

namespace Numeral

/-- All digits as one whole number. -/
def digits (numeral : Numeral) : Nat := numberOf (numeral.whole ++ numeral.fraction)

/-- The power of ten of the last digit. -/
def lastPlace (numeral : Numeral) : Int := numeral.exponent.getD 0 - numeral.fraction.length

/-- Whether there is neither a point nor an exponent. -/
def isWhole (numeral : Numeral) : Bool := numeral.fraction.isEmpty && numeral.exponent.isNone

/-- The whole number that the digits and the sign write. -/
def signed (numeral : Numeral) : Int :=
  if numeral.negative then -numeral.digits else numeral.digits

end Numeral

/-- The least whole number that is kept exactly. -/
def leastInt : Int := -9223372036854775808

/-- The greatest whole number that is kept exactly. -/
def greatestInt : Int := 18446744073709551615

/-- The value of a number, unless it cannot be kept. -/
def Numeral.value? (numeral : Numeral) : Option Json :=
  if numeral.isWhole && (numeral.digits != 0 || !numeral.negative)
      && leastInt ≤ numeral.signed && numeral.signed ≤ greatestInt then
    some (.int numeral.signed)
  else (Decimal.nearest numeral.negative numeral.digits numeral.lastPlace).map .float

/-- A number. -/
def readNumber (cs : List Char) : Read Written :=
  (readNumeral cs).map fun (numeral, rest) => (.atom numeral.value?, rest)

/-- A word of the grammar, and the value that it writes. -/
def readWord (word : List Char) (value : Json) (cs : List Char) : Read Written :=
  if word.isPrefixOf cs then some (.atom (some value), cs.drop word.length) else none

/-- Whether a list of items has just begun, so that it may end at once. -/
inductive Position where
  /-- Before the first item. -/
  | first
  /-- After a comma. -/
  | next
  deriving DecidableEq

mutual

/-- A value. A value and its first item use up fuel at the same character, so twice the number of
characters is enough. -/
def readValue : Nat → List Char → Read Written
  | 0, _ => none
  | fuel + 1, cs =>
    match skipSpace cs with
    | [] => none
    | 'n' :: rest => readWord "null".toList .null ('n' :: rest)
    | 't' :: rest => readWord "true".toList (.bool true) ('t' :: rest)
    | 'f' :: rest => readWord "false".toList (.bool false) ('f' :: rest)
    | '"' :: rest =>
      (readString rest).map fun (text, rest) => (.atom (text.map .string), rest)
    | '[' :: rest =>
      (readItems fuel .first rest).map fun (items, rest) => (.array items, rest)
    | '\x7b' :: rest =>
      (readFields fuel .first rest).map fun (fields, rest) => (.object fields, rest)
    | cs => readNumber cs

/-- The items of a list up to the closing bracket. -/
def readItems : Nat → Position → List Char → Read (List Written)
  | 0, _, _ => none
  | fuel + 1, position, cs =>
    match skipSpace cs with
    | ']' :: rest => if position = .first then some ([], rest) else none
    | cs =>
      match readValue fuel cs with
      | none => none
      | some (item, rest) =>
        match skipSpace rest with
        | ']' :: rest => some ([item], rest)
        | ',' :: rest =>
          (readItems fuel .next rest).map fun (items, rest) => (item :: items, rest)
        | _ => none

/-- The fields of an object up to the closing brace, in the order of the text. -/
def readFields : Nat → Position → List Char → Read (List (Option String × Written))
  | 0, _, _ => none
  | fuel + 1, position, cs =>
    match skipSpace cs with
    | '\x7d' :: rest => if position = .first then some ([], rest) else none
    | '"' :: rest =>
      match readString rest with
      | none => none
      | some (name, rest) =>
        match skipSpace rest with
        | ':' :: rest =>
          match readValue fuel rest with
          | none => none
          | some (value, rest) =>
            match skipSpace rest with
            | '\x7d' :: rest => some ([(name, value)], rest)
            | ',' :: rest =>
              (readFields fuel .next rest).map fun (fields, rest) => ((name, value) :: fields, rest)
            | _ => none
        | _ => none
    | _ => none

end

/-- The value that a text writes, as it writes it. -/
def written? (text : String) : Option Written :=
  let cs := text.toList
  match readValue (2 * cs.length + 2) cs with
  | some (value, rest) => if (skipSpace rest).isEmpty then some value else none
  | none => none

/-- The value that a text writes, nested no deeper than `depth`. -/
def parseWithin (depth : Nat) (text : String) : Option Json :=
  (written? text).bind (Written.value? .whole depth)

/-- The value that a text writes, as far as a shape looks at it. -/
def parseAs (shape : Shape) (text : String) : Option Json :=
  (written? text).bind (Written.value? shape nestingLimit)

/-- The value that a text writes. -/
def parse (text : String) : Option Json := parseAs .whole text

end Dataflow.Json
