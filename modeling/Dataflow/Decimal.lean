/-!
# Decimal numbers

A floating-point number is held as a decimal: a sign, a whole number of digits and a power of ten.
The digits do not end in a zero, so there is one decimal for each number and sign. Its written form
is positional while the leading digit is near the point, and scientific otherwise. The written form
always shows a point or an exponent, so it never reads as a whole number.
-/

namespace Dataflow

/-- The last digit is not a zero, unless the number is zero and has the exponent zero. -/
def Decimal.IsReduced (digits : Nat) (exponent : Int) : Prop :=
  if digits = 0 then exponent = 0 else digits % 10 ≠ 0

/-- The number `digits · 10 ^ exponent`, with a sign that zero has too. -/
structure Decimal where
  /-- Whether the number is written with a minus sign. -/
  negative : Bool
  /-- The digits, read as one whole number. -/
  digits : Nat
  /-- The power of ten of the last digit. -/
  exponent : Int
  /-- No zero stands at the end of the digits. -/
  isReduced : Decimal.IsReduced digits exponent
  deriving DecidableEq

namespace Decimal

/-- Digits without the zeros at their end, and the power of ten of the digit that is then last. -/
def dropZeros (digits : Nat) (exponent : Int) : Nat × Int :=
  if digits = 0 then (0, 0)
  else if digits % 10 = 0 then dropZeros (digits / 10) (exponent + 1)
  else (digits, exponent)
termination_by digits
decreasing_by omega

/-- Without its trailing zeros a numeral is reduced. -/
theorem isReduced_dropZeros (digits : Nat) (exponent : Int) :
    IsReduced (dropZeros digits exponent).1 (dropZeros digits exponent).2 := by
  fun_induction dropZeros digits exponent with
  | case1 => rfl
  | case2 digits exponent hne hzero ih => exact ih
  | case3 digits exponent hne hlast =>
    rw [IsReduced, if_neg hne]
    exact hlast

/-- The decimal of the number `digits · 10 ^ exponent`. -/
def ofDigits (negative : Bool) (digits : Nat) (exponent : Int) : Decimal :=
  ⟨negative, _, _, isReduced_dropZeros digits exponent⟩

/-- A whole number in base ten. -/
def digitsOf (n : Nat) : List Char := Nat.toDigits 10 n

/-- A whole number in base ten, with a minus sign if it is below zero. -/
def signedDigits (n : Int) : List Char :=
  if n < 0 then '-' :: digitsOf n.natAbs else digitsOf n.natAbs

/-- The least power of ten of a leading digit that is written positionally. -/
def leastPositional : Int := -5

/-- The greatest power of ten of a leading digit that is written positionally. -/
def greatestPositional : Int := 15

/-- Positional form: at least one digit stands on each side of the point. -/
def positional (digits : List Char) (exponent : Int) : List Char :=
  if 0 ≤ exponent then digits ++ List.replicate exponent.toNat '0' ++ ['.', '0']
  else
    let places := exponent.natAbs
    if places < digits.length then
      digits.take (digits.length - places) ++ '.' :: digits.drop (digits.length - places)
    else ['0', '.'] ++ List.replicate (places - digits.length) '0' ++ digits

/-- Scientific form: one digit before the point, no point after a lone digit, a signed exponent. -/
def scientific (digits : List Char) (leading : Int) : List Char :=
  let mantissa := match digits with
    | first :: second :: rest => first :: '.' :: second :: rest
    | other => other
  let sign := if leading < 0 then '-' else '+'
  mantissa ++ 'e' :: sign :: digitsOf leading.natAbs

/-- The written form of a number. -/
def text (number : Decimal) : List Char :=
  let digits := digitsOf number.digits
  let leading := number.exponent + digits.length - 1
  let magnitude :=
    if leastPositional ≤ leading ∧ leading ≤ greatestPositional then
      positional digits number.exponent
    else scientific digits leading
  if number.negative then '-' :: magnitude else magnitude

end Decimal

end Dataflow
