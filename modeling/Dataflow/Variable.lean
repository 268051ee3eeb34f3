import Dataflow.Decimal
import Dataflow.Text.Identifier

/-!
# Variables of output ports

Each output port of a node is bound to a variable whose name is made of the ordinal of the node and
the name of the port. Names that would be equal get a number at the end, counted from two; the first
that is not yet in use is taken.
-/

namespace Dataflow

/-- The variable of an output port. -/
structure Binding where
  /-- The name of the port. -/
  port : String
  /-- The name of its variable. -/
  name : String
  deriving DecidableEq, Inhabited

namespace Variable

/-- The letter and the ordinal with at least two digits, which begin all variables of a node. -/
def tag (ordinal : UInt32) : List Char :=
  let digits := Decimal.digitsOf ordinal.toNat
  'n' :: (if digits.length < 2 then '0' :: digits else digits)

/-- The variable of a port, before it is told apart from others. -/
def name (ordinal : UInt32) (port : String) : String :=
  String.ofList (tag ordinal ++ '_' :: port.toList.map Text.wordChar)

/-- The variable that takes the result of a call before it is handed on. -/
def capture (ordinal : UInt32) : String :=
  String.ofList (tag ordinal ++ '_' :: "result".toList)

/-- A name with a number at its end. -/
def numbered (base : String) (number : Nat) : String :=
  base ++ String.ofList ('_' :: Decimal.digitsOf number)

/-- A name, and the same name with the numbers from two on, `count` of them. -/
def candidates (base : String) (count : Nat) : List String :=
  base :: (List.range count).map fun i => numbered base (i + 2)

/-- The first candidate that is not in use. There is one more candidate than there are names in
use, so one is always left. -/
def firstUnused (used : List String) (base : String) : String :=
  ((candidates base used.length).find? fun candidate => !used.contains candidate).getD base

/-- Bind ports to variables, given the variables in use. -/
def bindFrom (ordinal : UInt32) : List String → List String → List Binding
  | _, [] => []
  | used, port :: rest =>
    let unused := firstUnused used (name ordinal port)
    { port, name := unused } :: bindFrom ordinal (unused :: used) rest

/-- Bind all ports of a node. -/
def bindPorts (ordinal : UInt32) (ports : List String) : List Binding :=
  bindFrom ordinal [] ports

end Variable

end Dataflow
