import Dataflow.Decimal

/-!
# The decimal of a binary floating-point number

A decimal that is read as a floating-point number stands for the nearest number with a 53-bit
significand, where a tie goes to the even significand. That number is named in turn by the decimal
with the fewest digits among those that stand for it, by the nearest of these if there are two, and
by the one that ends in an even digit if both are equally near. All arithmetic is exact.
-/

namespace Dataflow.Decimal

/-- The number `significand · 2 ^ exponent`. -/
structure Binary where
  /-- The significand, below `2 ^ 53`. -/
  significand : Nat
  /-- The power of two of its last bit. -/
  exponent : Int

/-- A power of two. -/
def powerOfTwo (n : Nat) : Nat := Nat.pow 2 n

/-- A power of ten. -/
def powerOfTen (n : Nat) : Nat := Nat.pow 10 n

/-- The power of two of the last bit of the numbers closest to zero. -/
def leastExponent : Int := -1074

/-- The power of two of the last bit of the greatest numbers. -/
def greatestExponent : Int := 971

/-- A quotient to the nearest whole number, where a half goes to the even one. -/
def roundDiv (num den : Nat) : Nat :=
  let quotient := num / den
  let twice := 2 * (num % den)
  if den < twice ∨ (twice = den ∧ quotient % 2 = 1) then quotient + 1 else quotient

/-- A fraction times a power of two. -/
def scaleTwo (num den : Nat) (power : Int) : Nat × Nat :=
  if 0 ≤ power then (num * powerOfTwo power.toNat, den)
  else (num, den * powerOfTwo power.natAbs)

/-- The power of two of the last bit when a fraction above zero is written with 53 bits. -/
def lastBit (num den : Nat) : Int :=
  let estimate : Int := (Nat.log2 num : Int) - Nat.log2 den
  let (n, d) := scaleTwo num den (-estimate)
  let leading := if d ≤ n then estimate else estimate - 1
  max (leading - 52) leastExponent

/-- The nearest floating-point number to a fraction above zero, if it is not too great. -/
def nearestBinary (num den : Nat) : Option Binary :=
  let last := lastBit num den
  let (n, d) := scaleTwo num den (-last)
  let significand := roundDiv n d
  let binary : Binary :=
    if significand = powerOfTwo 53 then ⟨powerOfTwo 52, last + 1⟩ else ⟨significand, last⟩
  if greatestExponent < binary.exponent then none else some binary

/-- The multiple of `10 ^ exponent` that stands for a floating-point number, if there is one.
Four times the significand is a whole number of quarters of its last bit, and so are the ends of the
interval of all numbers that round to it. -/
def onGrid (binary : Binary) (exponent : Int) : Option Nat :=
  let quarters := 4 * binary.significand
  let below :=
    if binary.significand = powerOfTwo 52 ∧ leastExponent < binary.exponent then 1 else 2
  let twos := binary.exponent - 2
  let scale := powerOfTwo twos.toNat * powerOfTen (-exponent).toNat
  let unit := powerOfTen exponent.toNat * powerOfTwo (-twos).toNat
  let value := quarters * scale
  let low := (quarters - below) * scale
  let high := (quarters + 2) * scale
  let closed := binary.significand % 2 = 0
  let floor := value / unit
  let hitBelow : Bool := 0 < floor ∧ (low < floor * unit ∨ (closed ∧ low = floor * unit))
  let hitAbove : Bool := (floor + 1) * unit < high ∨ (closed ∧ (floor + 1) * unit = high)
  let rest := value - floor * unit
  match hitBelow, hitAbove with
  | true, true =>
    if 2 * rest < unit ∨ (2 * rest = unit ∧ floor % 2 = 0) then some floor else some (floor + 1)
  | true, false => some floor
  | false, true => some (floor + 1)
  | false, false => none

/-- The number of grids that are tried; seventeen digits always suffice. -/
def gridCount : Nat := 20

/-- The shortest decimal that stands for a floating-point number above zero. The grids are tried
from the power of ten `above`, which must exceed the number, to finer ones. -/
def shortest (binary : Binary) (above : Int) : Option (Nat × Int) :=
  (List.range gridCount).findSome? fun (step : Nat) =>
    let exponent := above - step
    (onGrid binary exponent).map fun digits => (digits, exponent)

/-- The decimal of the floating-point number nearest to `digits · 10 ^ exponent`, or nothing if that
number is beyond the greatest one. -/
def nearest (negative : Bool) (digits : Nat) (exponent : Int) : Option Decimal :=
  let zero := ofDigits negative 0 0
  let above := exponent + (digitsOf digits).length
  if digits = 0 ∨ above < -400 then some zero
  else if 400 < above then none
  else
    let num := digits * powerOfTen exponent.toNat
    let den := powerOfTen (-exponent).toNat
    match nearestBinary num den with
    | none => none
    | some binary =>
      if binary.significand = 0 then some zero
      else (shortest binary (above + 1)).map fun (short, power) => ofDigits negative short power

end Dataflow.Decimal
