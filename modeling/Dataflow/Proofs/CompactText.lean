import Dataflow.Json.Printer
import Dataflow.Proofs.Literals
import Mathlib.Tactic.IntervalCases

/-!
# Values told by their compact text

The compact text of a value says which value it is and where it ends. The first character tells the
kind of the value. A text in quotes is read back whatever it holds, and a number goes on until a
character comes that belongs to none. Behind an item of a list or of an object stands a comma or the
closing bracket, and neither begins a value.
-/

namespace Dataflow

namespace Json

open Numeral (Ends)

/-! ## Texts in quotes -/

/-- A control character is read back from its escape. -/
theorem readEscape_control {code : Nat} (h : code < 0x20) (rest : List Char) :
    ∃ tail, escapeChar (Char.ofNat code) = '\\' :: tail ∧
      readEscape (tail ++ rest) = some (some (Char.ofNat code), rest) := by
  interval_cases code <;> exact ⟨_, rfl, rfl⟩

/-- A character is read back from the way it is written. -/
theorem readChars_escapeChar (fuel : Nat) (read : List Char) (c : Char) (rest : List Char) :
    readChars (fuel + 1) (some read) (escapeChar c ++ rest) =
      readChars fuel (some (c :: read)) rest := by
  have hescaped {tail : List Char} (htail : escapeChar c = '\\' :: tail)
      (hread : readEscape (tail ++ rest) = some (some c, rest)) :
      readChars (fuel + 1) (some read) (escapeChar c ++ rest) =
        readChars fuel (some (c :: read)) rest := by
    simp [htail, readChars, hread]
  by_cases hquote : c = '"'
  · subst hquote
    exact hescaped rfl rfl
  by_cases hback : c = '\\'
  · subst hback
    exact hescaped rfl rfl
  by_cases hcontrol : c.toNat < 0x20
  · obtain ⟨tail, htail, hread⟩ := readEscape_control hcontrol rest
    rw [Char.ofNat_toNat] at htail hread
    exact hescaped htail hread
  · simp [escapeChar, readChars, hquote, hback, hcontrol]

/-- What is written between quotes is read back up to the closing quote. -/
theorem readChars_quoted (text rest : List Char) {fuel : Nat} (hfuel : text.length < fuel)
    (read : List Char) :
    readChars fuel (some read) (text.flatMap escapeChar ++ '"' :: rest) =
      some (some (read.reverse ++ text), rest) := by
  induction text generalizing fuel read with
  | nil =>
    obtain ⟨fuel, rfl⟩ := Nat.exists_eq_add_one_of_ne_zero (Nat.ne_zero_of_lt hfuel)
    simp [readChars]
  | cons c text ih =>
    obtain ⟨fuel, rfl⟩ := Nat.exists_eq_add_one_of_ne_zero (Nat.ne_zero_of_lt hfuel)
    rw [List.flatMap_cons, List.append_assoc, readChars_escapeChar,
      ih (Nat.lt_of_succ_lt_succ hfuel), List.reverse_cons, List.append_assoc]
    rfl

theorem escapeChar_ne_nil (c : Char) : escapeChar c ≠ [] := by
  unfold escapeChar
  repeat' split
  all_goals simp

/-- A text is not longer than its escaped form, so its length is fuel enough to read it. -/
theorem length_le_length_escaped (text : List Char) :
    text.length ≤ (text.flatMap escapeChar).length := by
  induction text with
  | nil => exact Nat.le_refl _
  | cons c text ih =>
    have hc := List.length_pos_of_ne_nil (escapeChar_ne_nil c)
    rw [List.flatMap_cons, List.length_append, List.length_cons]
    omega

/-- A text is read back from its quotes. -/
theorem readString_quoted (text : String) (rest : List Char) :
    readString (text.toList.flatMap escapeChar ++ '"' :: rest) = some (some text, rest) := by
  have hlength := length_le_length_escaped text.toList
  rw [readString, readChars_quoted]
  · simp
  · rw [List.length_append]
    omega

/-- A quoted text tells what is quoted and where it ends. -/
theorem quoted_append_inj {text other : String} {rest tail : List Char}
    (h : quoted text ++ rest = quoted other ++ tail) : text = other ∧ rest = tail := by
  simp only [quoted, List.cons_append, List.append_assoc, List.cons.injEq, true_and,
    List.nil_append] at h
  have hread := readString_quoted text rest
  rw [h, readString_quoted] at hread
  simpa using hread.symm

/-! ## Numbers -/

/-- The numeral that a number is written as, and the number that it writes. -/
def IsNumber (value : Json) : Prop :=
  ∃ numeral : Numeral, numeral.IsProper ∧ compactChars value = numeral.text ∧
    numeral.exact = value

theorem isNumber_int (value : Int) : IsNumber (.int value) := exists_numeral value

theorem isNumber_float (value : Decimal) : IsNumber (.float value) := value.exists_numeral

/-- A number is told by its text, if no further digit follows. -/
theorem IsNumber.append_inj {value other : Json} (hvalue : value.IsNumber) (hother : other.IsNumber)
    {rest tail : List Char} (hrest : Ends rest) (htail : Ends tail)
    (h : compactChars value ++ rest = compactChars other ++ tail) :
    value = other ∧ rest = tail := by
  obtain ⟨numeral, hproper, htext, hexact⟩ := hvalue
  obtain ⟨numeral', hproper', htext', hexact'⟩ := hother
  have hread := Numeral.readNumeral_text hproper hrest
  rw [← htext, h, htext', Numeral.readNumeral_text hproper' htail] at hread
  obtain ⟨rfl, rfl⟩ := Prod.mk.inj (Option.some.inj hread)
  exact ⟨hexact.symm.trans hexact', rfl⟩

/-! ## Kinds -/

/-- The character that a written value begins with, and a zero for all numbers. -/
def mark : Json → Char
  | .null => 'n'
  | .bool true => 't'
  | .bool false => 'f'
  | .int _ | .float _ => '0'
  | .string _ => '"'
  | .array _ => '['
  | .object _ => '\x7b'

/-- The mark of the values that begin with a character. -/
def markOf (c : Char) : Char := if c = '-' ∨ c.isDigit = true then '0' else c

/-- A written number begins with a digit or a minus. -/
theorem IsNumber.exists_cons {value : Json} (h : value.IsNumber) :
    ∃ c others, compactChars value = c :: others ∧ markOf c = '0' := by
  obtain ⟨numeral, hproper, htext, -⟩ := h
  obtain ⟨c, others, hcons, hc⟩ := Numeral.exists_text_eq_cons hproper
  exact ⟨c, others, htext.trans hcons, if_pos hc⟩

/-- The first character that is written shows the mark of the value. -/
theorem exists_compactChars_eq_cons (value : Json) :
    ∃ c others, compactChars value = c :: others ∧ markOf c = value.mark := by
  cases value with
  | null => exact ⟨_, _, rfl, rfl⟩
  | bool value => cases value <;> exact ⟨_, _, rfl, rfl⟩
  | int value => exact (isNumber_int value).exists_cons
  | float value => exact (isNumber_float value).exists_cons
  | string value => exact ⟨_, _, rfl, rfl⟩
  | array items => exact ⟨_, _, rfl, rfl⟩
  | object fields => exact ⟨_, _, rfl, rfl⟩

/-- Values that are written alike have the same mark. -/
theorem mark_eq_of_append_eq {value other : Json} {rest tail : List Char}
    (h : compactChars value ++ rest = compactChars other ++ tail) : other.mark = value.mark := by
  obtain ⟨c, others, hcons, hc⟩ := exists_compactChars_eq_cons value
  obtain ⟨d, more, hcons', hd⟩ := exists_compactChars_eq_cons other
  rw [hcons, hcons'] at h
  rw [← hc, ← hd, (List.cons.inj h).1]

/-- What the mark of a value tells of it. -/
structure Marked (value : Json) : Prop where
  /-- Only the value without content begins like its word. -/
  null : value.mark = 'n' → value = .null
  /-- Only yes begins like its word. -/
  yes : value.mark = 't' → value = .bool true
  /-- Only no begins like its word. -/
  no : value.mark = 'f' → value = .bool false
  /-- Only numbers begin like numbers. -/
  number : value.mark = '0' → value.IsNumber
  /-- Only texts begin with a quote. -/
  string : value.mark = '"' → ∃ text, value = .string text
  /-- Only lists begin with a bracket. -/
  array : value.mark = '[' → ∃ items, value = .array items
  /-- Only objects begin with a brace. -/
  object : value.mark = '\x7b' → ∃ fields, value = .object fields

/-- The marks of values keep the kinds of values apart. -/
theorem marked (value : Json) : value.Marked := by
  constructor <;> rcases value with _ | (_ | _) | _ | _ | _ | _ | _ <;>
    simp [mark, isNumber_int, isNumber_float]

/-! ## Lists and objects -/

/-- A way of writing tells what is written and where it ends, if no number goes on behind it. -/
def Tells {α : Type} (write : α → List Char) (value : α) : Prop :=
  ∀ other rest tail, Ends rest → Ends tail → write value ++ rest = write other ++ tail →
    value = other ∧ rest = tail

theorem compactItems_eq_map (items : List Json) :
    compactItems items = items.map compactChars := by
  induction items with
  | nil => rfl
  | cons item rest ih => rw [compactItems, ih, List.map_cons]

/-- A field of an object as it is written. -/
def compactField (field : String × Json) : List Char :=
  quoted field.1 ++ ':' :: compactChars field.2

theorem compactFields_eq_map (fields : List (String × Json)) :
    compactFields fields = fields.map compactField := by
  induction fields with
  | nil => rfl
  | cons field rest ih => rw [compactFields, ih, List.map_cons, compactField]

/-- A field is told by its text if its value is. -/
theorem tells_compactField {field : String × Json} (h : Tells compactChars field.2) :
    Tells compactField field := by
  intro other rest tail hrest htail heq
  simp only [compactField, List.append_assoc, List.cons_append] at heq
  obtain ⟨hname, hmore⟩ := quoted_append_inj heq
  obtain ⟨hvalue, hsame⟩ := h other.2 rest tail hrest htail (List.cons.inj hmore).2
  exact ⟨Prod.ext hname hvalue, hsame⟩

section Parts

variable {α : Type} {write : α → List Char} {closing : Char}

/-- Parts with a comma between them are the first part and the others with a comma before each. -/
theorem intercalate_comma (part : α) (parts : List α) :
    [','].intercalate ((part :: parts).map write) =
      write part ++ parts.flatMap fun other => ',' :: write other := by
  induction parts generalizing part with
  | nil => simp
  | cons second parts ih =>
    rw [List.map_cons, List.map_cons, List.intercalate_cons_cons, ← List.map_cons, ih]
    simp

/-- No number goes on behind a part of a list, where a comma or the closing bracket follows. -/
theorem ends_parts (hclosing : Ends [closing]) (parts : List α) (rest : List Char) :
    Ends ((parts.flatMap fun other => ',' :: write other) ++ closing :: rest) := by
  cases parts with
  | nil => exact hclosing
  | cons part parts => exact Literal.ends_cons (.inl rfl) _

/-- The parts behind the first one are told by their text if each of them is. -/
theorem followers_inj (hcomma : closing ≠ ',') (hclosing : Ends [closing]) {parts others : List α}
    (hparts : ∀ part ∈ parts, Tells write part) {rest tail : List Char}
    (h : (parts.flatMap fun other => ',' :: write other) ++ closing :: rest =
      (others.flatMap fun other => ',' :: write other) ++ closing :: tail) :
    parts = others ∧ rest = tail := by
  induction parts generalizing others with
  | nil =>
    cases others with
    | nil => exact ⟨rfl, (List.cons.inj h).2⟩
    | cons other others => exact absurd (List.cons.inj h).1 hcomma
  | cons part parts ih =>
    obtain ⟨hpart, hmore⟩ := List.forall_mem_cons.mp hparts
    cases others with
    | nil => exact absurd (List.cons.inj h).1.symm hcomma
    | cons other others =>
      simp only [List.flatMap_cons, List.cons_append, List.append_assoc] at h
      obtain ⟨rfl, hrest⟩ := hpart other _ _ (ends_parts hclosing parts rest)
        (ends_parts hclosing others tail) (List.cons.inj h).2
      obtain ⟨rfl, hsame⟩ := ih hmore hrest
      exact ⟨rfl, hsame⟩

/-- Parts between brackets tell the list of them, if the closing bracket begins no part. -/
theorem parts_inj (hcomma : closing ≠ ',') (hclosing : Ends [closing])
    (hbegins : ∀ part, (write part).head? ≠ some closing ∧ write part ≠ [])
    {parts others : List α} (hparts : ∀ part ∈ parts, Tells write part) {rest tail : List Char}
    (h : [','].intercalate (parts.map write) ++ closing :: rest =
      [','].intercalate (others.map write) ++ closing :: tail) :
    parts = others ∧ rest = tail := by
  have hempty (part : α) (more : List α) (rest tail : List Char) :
      closing :: rest ≠ [','].intercalate ((part :: more).map write) ++ closing :: tail := by
    intro heq
    obtain ⟨hhead, hsome⟩ := hbegins part
    obtain ⟨c, chars, hcons⟩ := List.exists_cons_of_ne_nil hsome
    rw [intercalate_comma, hcons] at heq
    exact hhead (by rw [hcons, List.head?_cons, (List.cons.inj heq).1])
  cases parts with
  | nil =>
    cases others with
    | nil => exact ⟨rfl, (List.cons.inj h).2⟩
    | cons other others => exact absurd h (hempty other others rest tail)
  | cons part parts =>
    obtain ⟨hpart, hmore⟩ := List.forall_mem_cons.mp hparts
    cases others with
    | nil => exact absurd h.symm (hempty part parts tail rest)
    | cons other others =>
      rw [intercalate_comma, intercalate_comma, List.append_assoc, List.append_assoc] at h
      obtain ⟨rfl, hrest⟩ := hpart other _ _ (ends_parts hclosing parts rest)
        (ends_parts hclosing others tail) h
      obtain ⟨rfl, hsame⟩ := followers_inj hcomma hclosing hmore hrest
      exact ⟨rfl, hsame⟩

end Parts

/-! ## Values -/

/-- No value begins with a closing bracket. -/
theorem head?_compactChars_ne (value : Json) :
    (compactChars value).head? ≠ some ']' ∧ compactChars value ≠ [] := by
  obtain ⟨c, others, hcons, hc⟩ := exists_compactChars_eq_cons value
  have hmark : value.mark ≠ ']' := by
    rcases value with _ | (_ | _) | _ | _ | _ | _ | _ <;> simp [mark]
  refine ⟨fun hhead => hmark ?_, by simp [hcons]⟩
  obtain rfl : c = ']' := by simpa [hcons] using hhead
  exact hc.symm

/-- The compact text of a value tells the value and where it ends. -/
theorem tells_compactChars (value : Json) : Tells compactChars value := by
  induction value using Json.inductionOn with
  | null =>
    intro other rest tail _ _ h
    obtain rfl := other.marked.null (mark_eq_of_append_eq h)
    exact ⟨rfl, List.append_cancel_left h⟩
  | bool value =>
    intro other rest tail _ _ h
    have hmark := mark_eq_of_append_eq h
    cases value with
    | true =>
      obtain rfl := other.marked.yes hmark
      exact ⟨rfl, List.append_cancel_left h⟩
    | false =>
      obtain rfl := other.marked.no hmark
      exact ⟨rfl, List.append_cancel_left h⟩
  | int value =>
    intro other rest tail hrest htail h
    have hnumber := other.marked.number (mark_eq_of_append_eq h)
    exact (isNumber_int value).append_inj hnumber hrest htail h
  | float value =>
    intro other rest tail hrest htail h
    exact (isNumber_float value).append_inj (other.marked.number (mark_eq_of_append_eq h)) hrest
      htail h
  | string value =>
    intro other rest tail _ _ h
    obtain ⟨text, rfl⟩ := other.marked.string (mark_eq_of_append_eq h)
    obtain ⟨rfl, hsame⟩ := quoted_append_inj h
    exact ⟨rfl, hsame⟩
  | array items ih =>
    intro other rest tail _ _ h
    obtain ⟨others, rfl⟩ := other.marked.array (mark_eq_of_append_eq h)
    simp only [compactChars, compactItems_eq_map, List.cons_append, List.append_assoc,
      List.cons.injEq, true_and, List.nil_append] at h
    obtain ⟨rfl, hsame⟩ := parts_inj (by decide) (Literal.ends_cons (.inr (.inl rfl)) [])
      head?_compactChars_ne ih h
    exact ⟨rfl, hsame⟩
  | object fields ih =>
    intro other rest tail _ _ h
    obtain ⟨others, rfl⟩ := other.marked.object (mark_eq_of_append_eq h)
    simp only [compactChars, compactFields_eq_map, List.cons_append, List.append_assoc,
      List.cons.injEq, true_and, List.nil_append] at h
    obtain ⟨rfl, hsame⟩ := parts_inj (by decide) (Literal.ends_cons (.inr (.inr rfl)) [])
      (fun part => ⟨by simp [compactField, quoted], by simp [compactField, quoted]⟩)
      (fun field hfield => tells_compactField (ih field hfield)) h
    exact ⟨rfl, hsame⟩

/-- Different values have different compact texts. -/
theorem compact_injective {value other : Json} (h : value.compact = other.compact) :
    value = other := by
  have hchars : compactChars value ++ [] = compactChars other ++ [] := by
    rw [List.append_nil, List.append_nil]
    exact String.ofList_injective h
  exact (tells_compactChars value other [] [] Numeral.ends_nil Numeral.ends_nil hchars).1

end Json

end Dataflow
