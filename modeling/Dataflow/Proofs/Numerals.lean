import Dataflow.Json.Parser
import Dataflow.Proofs.Variable
import Mathlib.Algebra.Group.Nat.Defs

/-!
# Numbers as they are written

The written form of a number is a numeral: a sign, digits before and after a point, and an exponent.
Reading finds the parts of a numeral again wherever no digit, point or exponent follows it. The
digits of a decimal are written with zeros around them at most, so the digits and the last place of
its numeral make the same decimal once zeros at the end are dropped. A whole number is written
without point and exponent, and a decimal never is.
-/

namespace Dataflow

namespace Decimal

/-! ## Zeros at the end -/

/-- Zeros at the end of digits do no more than move the last place. -/
theorem dropZeros_mul_pow {digits : Nat} {exponent : Int} (h : IsReduced digits exponent)
    (zeros : Nat) :
    dropZeros (digits * 10 ^ zeros) (exponent - zeros) = (digits, exponent) := by
  rw [IsReduced] at h
  split at h
  · next hzero =>
    rw [hzero, Nat.zero_mul, dropZeros, if_pos rfl, h]
  · next hne =>
    induction zeros with
    | zero =>
      rw [Nat.pow_zero, Nat.mul_one, Int.natCast_zero, Int.sub_zero, dropZeros, if_neg hne,
        if_neg h]
    | succ zeros ih =>
      have hpow : digits * 10 ^ (zeros + 1) = digits * 10 ^ zeros * 10 := by
        rw [Nat.pow_succ, Nat.mul_assoc]
      have hpos : digits * 10 ^ zeros ≠ 0 :=
        Nat.mul_ne_zero hne (Nat.pos_iff_ne_zero.mp (Nat.pow_pos (by decide : 0 < 10)))
      have hplace : exponent - ((zeros + 1 : Nat) : Int) + 1 = exponent - zeros := by omega
      rw [hpow, dropZeros, if_neg (by omega), if_pos (by omega), Nat.mul_div_cancel _ (by decide),
        hplace, ih]

/-- A decimal is made again from its digits, with any number of zeros behind them. -/
theorem ofDigits_mul_pow (number : Decimal) (zeros : Nat) :
    ofDigits number.negative (number.digits * 10 ^ zeros) (number.exponent - zeros) = number := by
  have hdropped := dropZeros_mul_pow number.isReduced zeros
  obtain ⟨negative, digits, exponent, isReduced⟩ := number
  simp only [ofDigits, hdropped]

/-! ## Digits -/

theorem digitsOf_ne_nil (n : Nat) : digitsOf n ≠ [] := Nat.toDigits_ne_nil

/-- The digits of a number above zero begin with another digit than zero. -/
theorem head?_digitsOf {n : Nat} (h : n ≠ 0) : (digitsOf n).head? ≠ some '0' := by
  induction n using Nat.strongRecOn with
  | ind n ih =>
    have hchars : ∀ d < 10, d ≠ 0 → d.digitChar ≠ '0' := by decide
    unfold digitsOf
    by_cases hsmall : n < 10
    · rw [Nat.toDigits_of_lt_base hsmall, List.head?_cons, Ne, Option.some_inj]
      exact hchars n hsmall h
    · rw [Nat.toDigits_of_base_le (by decide) (by omega), List.head?_append_of_ne_nil]
      · exact ih (n / 10) (by omega) (by omega)
      · exact Nat.toDigits_ne_nil

end Decimal

namespace Json

/-- The digits of a number write the number. -/
theorem numberOf_digitsOf (n : Nat) : numberOf (Decimal.digitsOf n) = n :=
  Nat.ofDigitChars_ten_toDigits

/-- Digits that may stand before a point: there is one, and no zero before others. -/
structure IsWholePart (digits : List Char) : Prop where
  /-- There is a digit. -/
  ne_nil : digits ≠ []
  /-- There is nothing else. -/
  isDigit : ∀ c ∈ digits, c.isDigit = true
  /-- A zero at the start stands alone. -/
  head : digits.head? = some '0' → digits = ['0']

/-- The digits of a number may stand before a point. -/
theorem isWholePart_digitsOf (n : Nat) : IsWholePart (Decimal.digitsOf n) where
  ne_nil := Decimal.digitsOf_ne_nil n
  isDigit _ := Decimal.isDigit_of_mem_digitsOf
  head hzero := by
    by_cases hn : n = 0
    · rw [hn]
      rfl
    · exact absurd hzero (Decimal.head?_digitsOf hn)

/-- The first digits of a whole part are a whole part. -/
theorem IsWholePart.take {digits : List Char} (h : IsWholePart digits) {count : Nat}
    (hcount : count ≠ 0) : IsWholePart (digits.take count) where
  ne_nil := by simp [h.ne_nil, hcount]
  isDigit c hc := h.isDigit c (List.mem_of_mem_take hc)
  head hzero := by
    rw [List.head?_take, if_neg hcount] at hzero
    rw [h.head hzero, List.take_of_length_le (Nat.pos_of_ne_zero hcount)]

/-- Zeros may stand behind digits, unless these are a zero. -/
theorem IsWholePart.append_zeros {digits : List Char} (h : IsWholePart digits) {zeros : Nat}
    (hzero : digits = ['0'] → zeros = 0) : IsWholePart (digits ++ List.replicate zeros '0') where
  ne_nil := by simp [h.ne_nil]
  isDigit c hc := by
    rcases List.mem_append.mp hc with hc | hc
    · exact h.isDigit c hc
    · rw [List.eq_of_mem_replicate hc]
      rfl
  head hhead := by
    rw [List.head?_append_of_ne_nil _ h.ne_nil] at hhead
    have halone := h.head hhead
    rw [halone, hzero halone]
    rfl

/-- A text that begins with no digit. -/
def NoDigit (rest : List Char) : Prop := ∀ c ∈ rest.head?, c.isDigit = false

/-- Digits are read up to what is no digit. -/
theorem readDigits_append {digits rest : List Char} (hdigits : ∀ c ∈ digits, c.isDigit = true)
    (hrest : NoDigit rest) : readDigits (digits ++ rest) = (digits, rest) := by
  have hstop : rest.takeWhile Char.isDigit = [] ∧ rest.dropWhile Char.isDigit = rest := by
    cases rest with
    | nil => exact ⟨rfl, rfl⟩
    | cons c rest =>
      have hc : ¬c.isDigit = true := by simp [hrest c rfl]
      exact ⟨List.takeWhile_cons_of_neg hc, List.dropWhile_cons_of_neg hc⟩
  rw [readDigits, List.takeWhile_append_of_pos hdigits, List.dropWhile_append_of_pos hdigits,
    hstop.1, hstop.2, List.append_nil]

/-- A whole part is read up to what is no digit. -/
theorem readWhole_append {digits rest : List Char} (hdigits : IsWholePart digits)
    (hrest : NoDigit rest) : readWhole (digits ++ rest) = some (digits, rest) := by
  rw [readWhole, readDigits_append hdigits.isDigit hrest]
  cases hcons : digits with
  | nil => exact absurd hcons hdigits.ne_nil
  | cons c others =>
    by_cases hzero : c = '0'
    · have halone := hdigits.head (by rw [hcons, hzero, List.head?_cons])
      obtain ⟨rfl, rfl⟩ := List.cons.inj (hcons.symm.trans halone)
      rfl
    · split <;> simp_all

/-! ## Numerals -/

namespace Numeral

variable {numeral : Numeral} {rest : List Char}

/-- A point and the digits behind it, nothing if there are none. -/
def pointed (fraction : List Char) : List Char :=
  if fraction.isEmpty then [] else '.' :: fraction

/-- An exponent with its sign, nothing if there is none. -/
def raised : Option Int → List Char
  | none => []
  | some exponent => 'e' :: (if exponent < 0 then '-' else '+') :: Decimal.digitsOf exponent.natAbs

/-- The sign in front of a number that has one. -/
def sign (negative : Bool) : List Char := if negative then ['-'] else []

/-- A numeral as it is written. -/
def text (numeral : Numeral) : List Char :=
  sign numeral.negative ++
    (numeral.whole ++ (pointed numeral.fraction ++ raised numeral.exponent))

/-- The digits of a numeral are digits, and no zero stands before others. -/
structure IsProper (numeral : Numeral) : Prop where
  /-- The digits before the point. -/
  whole : IsWholePart numeral.whole
  /-- The digits behind the point. -/
  fraction : ∀ c ∈ numeral.fraction, c.isDigit = true

/-- A text that does not go on with a number. -/
def Ends (rest : List Char) : Prop :=
  ∀ c ∈ rest.head?, c.isDigit = false ∧ c ≠ '.' ∧ c ≠ 'e' ∧ c ≠ 'E'

theorem ends_nil : Ends [] := by simp [Ends]

theorem Ends.noDigit (h : Ends rest) : NoDigit rest := fun c hc => (h c hc).1

/-- An exponent is read as it is written, also if there is none. -/
theorem readExponent_raised (exponent : Option Int) (h : Ends rest) :
    readExponent (raised exponent ++ rest) = some (exponent, rest) := by
  cases exponent with
  | none =>
    cases rest with
    | nil => rfl
    | cons c rest =>
      obtain ⟨-, -, he, hE⟩ := h c rfl
      simp [raised, readExponent, he, hE]
  | some exponent =>
    have hdigits : readDigits (Decimal.digitsOf exponent.natAbs ++ rest) =
        (Decimal.digitsOf exponent.natAbs, rest) :=
      readDigits_append (fun _ => Decimal.isDigit_of_mem_digitsOf) h.noDigit
    have hnumber := numberOf_digitsOf exponent.natAbs
    obtain ⟨c, others, hcons⟩ := List.exists_cons_of_ne_nil
      (Decimal.digitsOf_ne_nil exponent.natAbs)
    rw [hcons] at hdigits hnumber
    rw [raised, hcons]
    by_cases hneg : exponent < 0
    · have hvalue : -(exponent.natAbs : Int) = exponent := by omega
      simp only [if_pos hneg, readExponent, List.cons_append, true_or, ite_true] at hdigits ⊢
      rw [hdigits]
      simp only [hnumber, hvalue]
    · have hvalue : (exponent.natAbs : Int) = exponent := by omega
      simp only [if_neg hneg, readExponent, List.cons_append, true_or, ite_true] at hdigits ⊢
      rw [hdigits]
      simp [hnumber, hvalue]

/-- A fraction is read as it is written, also if there is none. -/
theorem readFraction_pointed {fraction : List Char} (hfraction : ∀ c ∈ fraction, c.isDigit = true)
    (hdigit : NoDigit rest) (hpoint : '.' ∉ rest.head?) :
    readFraction (pointed fraction ++ rest) = some (fraction, rest) := by
  cases fraction with
  | nil =>
    cases rest with
    | nil => rfl
    | cons c rest =>
      rw [pointed, List.isEmpty_nil, if_pos rfl, List.nil_append, readFraction]
      intro _ heq
      exact hpoint (congrArg List.head? heq)
  | cons c others =>
    rw [pointed, List.isEmpty_cons, if_neg Bool.false_ne_true, List.cons_append, readFraction,
      readDigits_append hfraction hdigit]

/-- A sign is read as it is written, also if there is none. -/
theorem readSign_append (negative : Bool) {whole : List Char} (hwhole : IsWholePart whole)
    (rest : List Char) :
    readSign (sign negative ++ (whole ++ rest)) = (negative, whole ++ rest) := by
  cases negative with
  | true => rfl
  | false =>
    obtain ⟨c, others, rfl⟩ := List.exists_cons_of_ne_nil hwhole.ne_nil
    have hdigit := hwhole.isDigit c List.mem_cons_self
    rw [sign, if_neg Bool.false_ne_true, List.nil_append, List.cons_append, readSign]
    intro _ hminus
    rw [(List.cons.inj hminus).1] at hdigit
    contradiction

/-- Reading finds the parts of a numeral again. -/
theorem readNumeral_text (h : numeral.IsProper) (hrest : Ends rest) :
    readNumeral (numeral.text ++ rest) = some (numeral, rest) := by
  obtain ⟨negative, whole, fraction, exponent⟩ := numeral
  obtain ⟨hwhole, hfraction⟩ := h
  have hraised : NoDigit (raised exponent ++ rest) ∧ '.' ∉ (raised exponent ++ rest).head? := by
    cases exponent with
    | none => exact ⟨hrest.noDigit, fun hpoint => (hrest _ hpoint).2.1 rfl⟩
    | some exponent => simp [raised, NoDigit]
  have hpointed : NoDigit (pointed fraction ++ (raised exponent ++ rest)) := by
    cases fraction with
    | nil => exact hraised.1
    | cons c others => simp [pointed, NoDigit]
  have hparts : readWhole (whole ++ (pointed fraction ++ (raised exponent ++ rest))) =
      some (whole, pointed fraction ++ (raised exponent ++ rest)) := readWhole_append hwhole hpointed
  have hexponent := readExponent_raised exponent hrest
  have hpoint := readFraction_pointed hfraction hraised.1 hraised.2
  have hsign : readSign (sign negative ++
      (whole ++ (pointed fraction ++ (raised exponent ++ rest)))) =
        (negative, whole ++ (pointed fraction ++ (raised exponent ++ rest))) :=
    readSign_append negative hwhole _
  simp only [text, List.append_assoc, readNumeral, hsign, hparts, hpoint, hexponent]

/-- A numeral begins with a minus sign or a digit. -/
theorem exists_text_eq_cons (h : numeral.IsProper) :
    ∃ c others, numeral.text = c :: others ∧ (c = '-' ∨ c.isDigit = true) := by
  rw [text]
  cases numeral.negative with
  | true => exact ⟨_, _, rfl, .inl rfl⟩
  | false =>
    obtain ⟨c, others, hcons⟩ := List.exists_cons_of_ne_nil h.whole.ne_nil
    refine ⟨c, _, by rw [hcons]; rfl, .inr (h.whole.isDigit c ?_)⟩
    rw [hcons]
    exact List.mem_cons_self

/-- A numeral holds digits and the characters of signs, points and exponents only. -/
theorem isDigit_or_mem_of_mem_text (h : numeral.IsProper) {c : Char} (hc : c ∈ numeral.text) :
    c.isDigit = true ∨ c ∈ ['-', '.', 'e', '+'] := by
  rw [text, List.mem_append, List.mem_append, List.mem_append] at hc
  rcases hc with hc | hc | hc | hc
  · unfold sign at hc
    split at hc <;> simp_all
  · exact .inl (h.whole.isDigit c hc)
  · unfold pointed at hc
    split at hc
    · contradiction
    · rcases List.mem_cons.mp hc with rfl | hc
      · exact .inr (by decide)
      · exact .inl (h.fraction c hc)
  · cases hexponent : numeral.exponent with
    | none => simp [hexponent, raised] at hc
    | some exponent =>
      rw [hexponent, raised, List.mem_cons, List.mem_cons] at hc
      rcases hc with rfl | rfl | hc
      · exact .inr (by decide)
      · split <;> exact .inr (by decide)
      · exact .inl (Decimal.isDigit_of_mem_digitsOf hc)

/-- The value of a numeral, without rounding. -/
def exact (numeral : Numeral) : Json :=
  if numeral.isWhole then .int numeral.signed
  else .float (.ofDigits numeral.negative numeral.digits numeral.lastPlace)

/-- A numeral with a point or an exponent whose digits are given ones with zeros behind them. -/
structure Writes (numeral : Numeral) (digits : Nat) (exponent : Int) : Prop where
  /-- The digits can be read. -/
  isProper : numeral.IsProper
  /-- There is a point or an exponent. -/
  isWhole : numeral.isWhole = false
  /-- Only zeros are added. -/
  value : ∃ zeros : Nat, numeral.digits = digits * 10 ^ zeros ∧ numeral.lastPlace = exponent - zeros

/-- A numeral that writes the digits and the sign of a decimal has its value. -/
theorem Writes.exact_eq {number : Decimal} (h : numeral.Writes number.digits number.exponent)
    (hsign : numeral.negative = number.negative) : numeral.exact = .float number := by
  obtain ⟨zeros, hdigits, hplace⟩ := h.value
  rw [exact, h.isWhole, if_neg Bool.false_ne_true, hsign, hdigits, hplace,
    number.ofDigits_mul_pow zeros]

end Numeral

/-- Zeros behind digits multiply by powers of ten. -/
theorem numberOf_append_zeros (digits : List Char) (zeros : Nat) :
    numberOf (digits ++ List.replicate zeros '0') = numberOf digits * 10 ^ zeros := by
  rw [numberOf, Nat.ofDigitChars_append, Nat.ofDigitChars_replicate_zero, Nat.mul_comm]
  rfl

/-- Zeros before digits do not count. -/
theorem numberOf_zeros_append (digits : List Char) (zeros : Nat) :
    numberOf (List.replicate zeros '0' ++ digits) = numberOf digits := by
  rw [numberOf, Nat.ofDigitChars_append, Nat.ofDigitChars_replicate_zero, Nat.mul_zero]
  rfl

end Json

/-! ## Decimals -/

namespace Decimal

open Json (IsWholePart Numeral numberOf)

/-- The numeral of positional form. -/
def positionalNumeral (negative : Bool) (digits : List Char) (exponent : Int) : Numeral :=
  if 0 ≤ exponent then
    ⟨negative, digits ++ List.replicate exponent.toNat '0', ['0'], none⟩
  else if exponent.natAbs < digits.length then
    let before := digits.length - exponent.natAbs
    ⟨negative, digits.take before, digits.drop before, none⟩
  else ⟨negative, ['0'], List.replicate (exponent.natAbs - digits.length) '0' ++ digits, none⟩

/-- The numeral of scientific form. -/
def scientificNumeral (negative : Bool) (digits : List Char) (leading : Int) : Numeral :=
  ⟨negative, digits.take 1, digits.drop 1, some leading⟩

/-- The positional form is the text of its numeral. -/
theorem text_positionalNumeral (negative : Bool) {digits : List Char} (hdigits : digits ≠ [])
    (exponent : Int) :
    (positionalNumeral negative digits exponent).text =
      Numeral.sign negative ++ positional digits exponent := by
  unfold positionalNumeral positional
  split
  · simp [Numeral.text, Numeral.pointed, Numeral.raised]
  · next hneg =>
    dsimp only
    split
    · next hplaces =>
      have hbehind : digits.drop (digits.length - exponent.natAbs) ≠ [] := by
        rw [Ne, List.drop_eq_nil_iff]
        omega
      simp [Numeral.text, Numeral.pointed, Numeral.raised, hbehind]
    · simp [Numeral.text, Numeral.pointed, Numeral.raised, hdigits]

/-- The scientific form is the text of its numeral. -/
theorem text_scientificNumeral (negative : Bool) {digits : List Char} (hdigits : digits ≠ [])
    (leading : Int) :
    (scientificNumeral negative digits leading).text =
      Numeral.sign negative ++ scientific digits leading := by
  obtain ⟨first, others, rfl⟩ := List.exists_cons_of_ne_nil hdigits
  cases others <;>
    simp [scientificNumeral, scientific, Numeral.text, Numeral.pointed, Numeral.raised]

/-- The positional form writes its digits and exponent. -/
theorem writes_positionalNumeral (negative : Bool) {digits : List Char} {exponent : Int}
    (hdigits : IsWholePart digits) (hzero : digits = ['0'] → exponent = 0) :
    (positionalNumeral negative digits exponent).Writes (numberOf digits) exponent := by
  unfold positionalNumeral
  split
  · -- the zero behind the point counts as well
    refine ⟨⟨hdigits.append_zeros fun halone => ?_, by simp⟩, rfl, exponent.toNat + 1, ?_, ?_⟩
    · rw [hzero halone]
      rfl
    · have hzeros := Json.numberOf_append_zeros digits (exponent.toNat + 1)
      simpa [Numeral.digits, List.replicate_succ'] using hzeros
    · simp [Numeral.lastPlace]
      omega
  · split
    · have hbefore : digits.length - exponent.natAbs ≠ 0 := by omega
      refine ⟨⟨hdigits.take hbefore, ?_⟩, ?_, 0, ?_, ?_⟩
      · exact fun c hc => hdigits.isDigit c (List.mem_of_mem_drop hc)
      · simp [Numeral.isWhole]
        omega
      · simp [Numeral.digits]
      · simp [Numeral.lastPlace]
        omega
    · refine ⟨⟨Json.isWholePart_digitsOf 0, ?_⟩, ?_, 0, ?_, ?_⟩
      · intro c hc
        rcases List.mem_append.mp hc with hc | hc
        · rw [List.eq_of_mem_replicate hc]
          rfl
        · exact hdigits.isDigit c hc
      · simp [Numeral.isWhole, hdigits.ne_nil]
      · rw [Nat.pow_zero, Nat.mul_one]
        exact Json.numberOf_zeros_append digits (exponent.natAbs - digits.length + 1)
      · simp [Numeral.lastPlace]
        omega

/-- The scientific form writes its digits and exponent. -/
theorem writes_scientificNumeral (negative : Bool) {digits : List Char}
    (hdigits : IsWholePart digits) (exponent : Int) :
    (scientificNumeral negative digits (exponent + digits.length - 1)).Writes (numberOf digits)
      exponent := by
  have hlength := List.length_pos_iff.mpr hdigits.ne_nil
  refine ⟨⟨hdigits.take Nat.one_ne_zero, ?_⟩, ?_, 0, ?_, ?_⟩
  · exact fun c hc => hdigits.isDigit c (List.mem_of_mem_drop hc)
  · simp [scientificNumeral, Numeral.isWhole]
  · simp only [scientificNumeral, Numeral.digits, List.take_append_drop, Nat.pow_zero, Nat.mul_one]
  · simp [scientificNumeral, Numeral.lastPlace]
    omega

/-- Every decimal is written as a numeral of its own. -/
theorem exists_numeral (number : Decimal) :
    ∃ numeral : Numeral, numeral.IsProper ∧ number.text = numeral.text ∧
      numeral.exact = .float number := by
  have hdigits := Json.isWholePart_digitsOf number.digits
  have hnumber := Json.numberOf_digitsOf number.digits
  have hsign (chars : List Char) : (if number.negative then '-' :: chars else chars) =
      Numeral.sign number.negative ++ chars := by
    cases number.negative <;> rfl
  rw [text, hsign]
  split
  · have hzero : digitsOf number.digits = ['0'] → number.exponent = 0 := by
      intro halone
      have hreduced := number.isReduced
      rwa [IsReduced, digitsOf_injective (halone.trans rfl : _ = digitsOf 0), if_pos rfl] at hreduced
    have hwrites := writes_positionalNumeral number.negative hdigits hzero
    rw [hnumber] at hwrites
    refine ⟨_, hwrites.isProper, ?_, hwrites.exact_eq ?_⟩
    · rw [text_positionalNumeral _ hdigits.ne_nil]
    · unfold positionalNumeral
      split
      · rfl
      · split <;> rfl
  · have hwrites := writes_scientificNumeral number.negative hdigits number.exponent
    rw [hnumber] at hwrites
    refine ⟨_, hwrites.isProper, ?_, hwrites.exact_eq rfl⟩
    rw [text_scientificNumeral _ hdigits.ne_nil]

end Decimal

/-- Every whole number is written as a numeral of its own. -/
theorem Json.exists_numeral (value : Int) :
    ∃ numeral : Numeral, numeral.IsProper ∧ Decimal.signedDigits value = numeral.text ∧
      numeral.exact = .int value := by
  refine ⟨⟨decide (value < 0), Decimal.digitsOf value.natAbs, [], none⟩,
    ⟨isWholePart_digitsOf _, by simp⟩, ?_, ?_⟩
  · simp [Decimal.signedDigits, Numeral.text, Numeral.pointed, Numeral.raised, Numeral.sign]
    split <;> rfl
  · have hdigits : numberOf (Decimal.digitsOf value.natAbs ++ []) = value.natAbs := by
      rw [List.append_nil, numberOf_digitsOf]
    have hsigned : (if decide (value < 0) then -(value.natAbs : Int) else value.natAbs) = value := by
      by_cases hneg : value < 0
      · rw [if_pos (decide_eq_true hneg)]
        omega
      · rw [if_neg (by simpa using hneg)]
        omega
    simp only [Numeral.exact, Numeral.isWhole, Numeral.signed, Numeral.digits, hdigits, hsigned]
    rfl

end Dataflow
