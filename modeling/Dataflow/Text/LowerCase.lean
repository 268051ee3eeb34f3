import Dataflow.Text.CaseTable
import Dataflow.Text.Ranges

/-!
# Lower case

Lower-casing by the full rules of Unicode. All characters map by the simple table but two: a dotted
capital I becomes two characters, and a capital sigma is written as a final sigma where a word ends.
A word ends after a sigma if, case-ignorable characters apart, a cased character stands before it
and none stands after it.
-/

namespace Dataflow.Text

/-- Whether a character has the property Cased. -/
def isCased (c : Char) : Bool := inRanges casedRanges c

/-- Whether a character has the property Case_Ignorable. -/
def isCaseIgnorable (c : Char) : Bool := inRanges ignorableRanges c

/-- The first character that is not case-ignorable exists and is cased. -/
def startsCased (cs : List Char) : Bool :=
  match cs.dropWhile isCaseIgnorable with
  | [] => false
  | c :: _ => isCased c

/-- Whether a code point belongs to a run. -/
def LowerRun.covers (run : LowerRun) (code : Nat) : Bool :=
  run.first ≤ code && code ≤ run.last && (code - run.first) % run.step == 0

/-- Lower case of one character by itself. -/
def lowerChar (c : Char) : List Char :=
  if c = 'İ' then ['i', '\u0307']
  else match lowerRuns.find? fun run => run.covers c.toNat with
    | some run => [Char.ofNat (c.toNat + run.shift).toNat]
    | none => [c]

/-- Lower case of a capital sigma between the characters before it, nearest first, and those
after. -/
def lowerSigma (before after : List Char) : Char :=
  if startsCased before && !startsCased after then 'ς' else 'σ'

/-- Lower case of the rest of a text, given the characters before it, nearest first. -/
def lowerRest : List Char → List Char → List Char
  | _, [] => []
  | before, c :: after =>
    (if c = 'Σ' then [lowerSigma before after] else lowerChar c) ++ lowerRest (c :: before) after

/-- Lower case of a text. -/
def lower (text : String) : String := String.ofList (lowerRest [] text.toList)

end Dataflow.Text
