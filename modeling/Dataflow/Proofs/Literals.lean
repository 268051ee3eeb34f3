import Dataflow.Literal
import Dataflow.Proofs.Json
import Dataflow.Proofs.Numerals

/-!
# Reading literals

A reader for literals: the three constants, numbers, texts in quotes, lists and mappings. It gives
back the value of every literal in which texts are quoted, whatever these texts hold, because a
quote inside a text follows a backslash and a backslash follows another one. So such literals are
equal only for equal values. In a listing a text that is an identifier stands bare, and the only
literals that it can be taken for are the constants.
-/

namespace Dataflow

/-- No digit begins an identifier. -/
theorem Text.isWordStart_of_isDigit {c : Char} (h : c.isDigit = true) :
    Text.isWordStart c = false := by
  have hne : (c == '_') = false := by
    rw [beq_eq_false_iff_ne]
    rintro rfl
    contradiction
  have hsmall : c.val ≤ '9'.val := of_decide_eq_true (Bool.and_eq_true_iff.mp h).2
  have halpha : c.isAlpha = false := by
    rw [Bool.eq_false_iff]
    intro halpha
    rcases Bool.or_eq_true_iff.mp halpha with hupper | hlower
    · have hlarge : 'A'.val ≤ c.val := (of_decide_eq_true hupper).1
      exact absurd (UInt32.le_trans hlarge hsmall) (by decide)
    · have hlarge : 'a'.val ≤ c.val := of_decide_eq_true (Bool.and_eq_true_iff.mp hlower).1
      exact absurd (UInt32.le_trans hlarge hsmall) (by decide)
  rw [isWordStart, hne, halpha, Bool.or_self]

namespace Literal

open Json (Read readNumeral)
open Json.Numeral (Ends)

/-- The characters of a text up to the closing quote, after the opening one. -/
def readQuoted : List Char → Read (List Char)
  | [] => none
  | '\'' :: rest => some ([], rest)
  | '\\' :: c :: rest =>
    if c = '\\' ∨ c = '\'' then (readQuoted rest).map fun (text, rest) => (c :: text, rest)
    else none
  | c :: rest => (readQuoted rest).map fun (text, rest) => (c :: text, rest)

/-- Parts with a comma and a blank between them, up to a closing character. There is at least one,
and no more than `count`. -/
def readParts {α : Type} (readPart : List Char → Read α) (closing : Char) :
    Nat → List Char → Read (List α)
  | 0, _ => none
  | count + 1, cs =>
    match readPart cs with
    | some (part, ',' :: ' ' :: rest) =>
      (readParts readPart closing count rest).map fun (parts, rest) => (part :: parts, rest)
    | some (part, c :: rest) => if c = closing then some ([part], rest) else none
    | _ => none

/-- An entry of a mapping: a text in quotes, a colon, a blank and a value. -/
def readEntry (readValue : List Char → Read Json) : List Char → Read (String × Json)
  | '\'' :: cs =>
    match readQuoted cs with
    | some (name, ':' :: ' ' :: cs) =>
      (readValue cs).map fun (value, rest) => ((String.ofList name, value), rest)
    | _ => none
  | _ => none

/-- A value in which lists and mappings are nested less deep than `depth`. -/
def readValue : Nat → List Char → Read Json
  | 0, _ => none
  | depth + 1, cs =>
    match cs with
    | 'N' :: 'o' :: 'n' :: 'e' :: rest => some (.null, rest)
    | 'T' :: 'r' :: 'u' :: 'e' :: rest => some (.bool true, rest)
    | 'F' :: 'a' :: 'l' :: 's' :: 'e' :: rest => some (.bool false, rest)
    | '\'' :: rest =>
      (readQuoted rest).map fun (text, rest) => (.string (String.ofList text), rest)
    | '[' :: ']' :: rest => some (.array [], rest)
    | '[' :: rest =>
      (readParts (readValue depth) ']' rest.length rest).map fun (items, rest) =>
        (.array items, rest)
    | '\x7b' :: '\x7d' :: rest => some (.object [], rest)
    | '\x7b' :: rest =>
      (readParts (readEntry (readValue depth)) '\x7d' rest.length rest).map fun (fields, rest) =>
        (.object fields, rest)
    | cs => (readNumeral cs).map fun (numeral, rest) => (numeral.exact, rest)

/-- The value that a text writes as a literal. -/
def read (text : List Char) : Option Json :=
  match readValue text.length text with
  | some (value, []) => some value
  | _ => none

/-! ## Quotes -/

/-- An escaped text is read back up to the closing quote. -/
theorem readQuoted_escape (text rest : List Char) :
    readQuoted (Text.escape text ++ '\'' :: rest) = some (text, rest) := by
  induction text with
  | nil => simp [Text.escape, readQuoted]
  | cons c text ih =>
    rw [Text.escape]
    split
    · next hspecial => simp [readQuoted, hspecial, ih]
    · next hplain =>
      obtain ⟨hback, hquote⟩ := not_or.mp hplain
      rw [List.cons_append, readQuoted, ih]
      · rfl
      · exact hquote
      · exact fun _ _ hc _ => hback hc

/-- A quoted text is read back as it was. -/
theorem readValue_quoteChars (text : String) (depth : Nat) (rest : List Char) :
    readValue (depth + 1) (Text.quoteChars text.toList ++ rest) = some (.string text, rest) := by
  rw [Text.quoteChars, List.cons_append, List.append_assoc, List.singleton_append, readValue,
    readQuoted_escape, Option.map_some]
  simp only [String.ofList_toList]

/-- A number is read back exactly, if no further digit follows. -/
theorem readValue_numeral {numeral : Json.Numeral} (h : numeral.IsProper) (depth : Nat)
    {rest : List Char} (hrest : Ends rest) :
    readValue (depth + 1) (numeral.text ++ rest) = some (numeral.exact, rest) := by
  obtain ⟨c, others, htext, hc⟩ := Json.Numeral.exists_text_eq_cons h
  have hread := Json.Numeral.readNumeral_text h hrest
  rw [htext, List.cons_append] at hread ⊢
  rw [readValue, hread, Option.map_some]
  all_goals
    intro _ heq
    rw [(List.cons.inj heq).1] at hc
    exact absurd hc (by decide)

/-! ## How literals begin -/

/-- A text spells a constant. -/
inductive Spells : Json → Json → Prop where
  /-- The value without content. -/
  | null : Spells (.string "None") .null
  /-- The truth value for yes. -/
  | yes : Spells (.string "True") (.bool true)
  /-- The truth value for no. -/
  | no : Spells (.string "False") (.bool false)

/-- Inside a list or a mapping a constant stands as it is spelled. -/
theorem Spells.nested_eq {text : String} {constant : Json} (h : Spells (.string text) constant) :
    nested constant = text.toList := by
  cases h <;> rfl

/-- No literal begins with a closing bracket, and only constants begin as identifiers do. -/
theorem exists_nested_eq_cons (value : Json) :
    ∃ c rest, nested value = c :: rest ∧ c ≠ ']' ∧
      (Text.isWordStart c = true → ∃ text, Spells (.string text) value) := by
  have hnumeral {numeral : Json.Numeral} (h : numeral.IsProper) :
      ∃ c rest, numeral.text = c :: rest ∧ c ≠ ']' ∧
        (Text.isWordStart c = true → ∃ text, Spells (.string text) value) := by
    obtain ⟨c, rest, htext, hc⟩ := Json.Numeral.exists_text_eq_cons h
    have hstart : Text.isWordStart c = false := by
      rcases hc with rfl | hdigit
      · rfl
      · exact Text.isWordStart_of_isDigit hdigit
    refine ⟨c, rest, htext, ?_, fun hword => ?_⟩
    · rintro rfl
      exact absurd hc (by decide)
    · rw [hstart] at hword
      contradiction
  cases value with
  | null => exact ⟨_, _, rfl, by decide, fun _ => ⟨_, .null⟩⟩
  | bool value =>
    cases value with
    | true => exact ⟨_, _, rfl, by decide, fun _ => ⟨_, .yes⟩⟩
    | false => exact ⟨_, _, rfl, by decide, fun _ => ⟨_, .no⟩⟩
  | int value =>
    obtain ⟨numeral, hproper, htext, -⟩ := Json.exists_numeral value
    rw [nested, htext]
    exact hnumeral hproper
  | float value =>
    obtain ⟨numeral, hproper, htext, -⟩ := value.exists_numeral
    rw [nested, htext]
    exact hnumeral hproper
  | _ => exact ⟨_, _, rfl, by decide, fun hword => absurd hword (by decide)⟩

/-! ## Lists and mappings -/

/-- The first of several texts begins them all. -/
theorem exists_intercalate_eq_cons {separator text rest : List Char} {c : Char}
    (h : text = c :: rest) (texts : List (List Char)) :
    ∃ others, separator.intercalate (text :: texts) = c :: others := by
  cases texts with
  | nil => exact ⟨rest, by rw [List.intercalate_singleton, h]⟩
  | cons second texts => exact ⟨_, by rw [List.intercalate_cons_cons, h]; rfl⟩

/-- What closes or separates parts ends a number. -/
theorem ends_cons {c : Char} (hc : c = ',' ∨ c = ']' ∨ c = '\x7d') (rest : List Char) :
    Ends (c :: rest) := by
  intro d hd
  obtain rfl : c = d := Option.some_inj.mp hd
  rcases hc with rfl | rfl | rfl <;> decide

/-- Parts that can be read one by one can be read together. -/
theorem readParts_intercalate {α : Type} {readPart : List Char → Read α} {write : α → List Char}
    {closing : Char} (hclosing : closing = ']' ∨ closing = '\x7d') {parts : List α}
    (hparts : parts ≠ []) (h : ∀ part ∈ parts, ∀ {rest : List Char}, Ends rest →
      readPart (write part ++ rest) = some (part, rest))
    {count : Nat} (hcount : parts.length ≤ count) (rest : List Char) :
    readParts readPart closing count ([',', ' '].intercalate (parts.map write) ++ closing :: rest) =
      some (parts, rest) := by
  have hclose : closing = ',' ∨ closing = ']' ∨ closing = '\x7d' := .inr hclosing
  induction parts generalizing count with
  | nil => exact absurd rfl hparts
  | cons part parts ih =>
    obtain ⟨hpart, hothers⟩ := List.forall_mem_cons.mp h
    obtain ⟨count, rfl⟩ := Nat.exists_eq_add_one_of_ne_zero (Nat.ne_zero_of_lt hcount)
    cases parts with
    | nil =>
      rw [List.map_singleton, List.intercalate_singleton, readParts, hpart (ends_cons hclose rest)]
      rcases hclosing with rfl | rfl <;> rfl
    | cons second parts =>
      have hrest := ih (List.cons_ne_nil _ _) hothers (Nat.le_of_succ_le_succ hcount)
      simp only [List.map_cons, List.intercalate_cons_cons, List.append_assoc, List.cons_append,
        List.nil_append] at hrest ⊢
      rw [readParts, hpart (ends_cons (.inl rfl) _)]
      simp only [hrest, Option.map_some]

/-- Separators stand between parts, so there are no more parts than characters. -/
theorem length_le_length_intercalate {α : Type} (write : α → List Char) (parts : List α)
    (closing : Char) (rest : List Char) :
    parts.length ≤ ([',', ' '].intercalate (parts.map write) ++ closing :: rest).length := by
  rw [List.length_append, List.length_cons]
  induction parts with
  | nil => exact Nat.zero_le _
  | cons part parts ih =>
    cases parts with
    | nil =>
      rw [List.length_singleton]
      omega
    | cons second parts =>
      simp only [List.map_cons, List.intercalate_cons_cons, List.length_append, List.length_cons,
        List.length_nil] at ih ⊢
      omega

theorem length_le_of_mem_intercalate {separator text : List Char} {texts : List (List Char)}
    (h : text ∈ texts) : text.length ≤ (separator.intercalate texts).length := by
  induction texts with
  | nil => exact absurd h List.not_mem_nil
  | cons first texts ih =>
    cases texts with
    | nil =>
      have hfirst : text = first := List.mem_singleton.mp h
      exact Nat.le_of_eq (by rw [hfirst, List.intercalate_singleton])
    | cons second texts =>
      rw [List.intercalate_cons_cons, List.length_append, List.length_append]
      rcases List.mem_cons.mp h with rfl | h
      · omega
      · exact Nat.le_trans (ih h) (Nat.le_add_left _ _)

theorem nestedItems_eq_map (items : List Json) : nestedItems items = items.map nested := by
  induction items with
  | nil => rfl
  | cons item rest ih => rw [nestedItems, ih, List.map_cons]

/-- A list is written in brackets, with commas and blanks between its items. -/
theorem nested_array (items : List Json) :
    nested (.array items) = '[' :: ([',', ' '].intercalate (items.map nested) ++ [']']) := by
  rw [nested, nestedItems_eq_map]
  rfl

/-- An entry of a mapping. -/
def entry (field : String × Json) : List Char :=
  Text.quoteChars field.1.toList ++ ':' :: ' ' :: nested field.2

theorem nestedFields_eq_map (fields : List (String × Json)) :
    nestedFields fields = fields.map entry := by
  induction fields with
  | nil => rfl
  | cons field rest ih => rw [nestedFields, ih, List.map_cons, entry]

/-- A mapping is written in braces, with commas and blanks between its entries. -/
theorem nested_object (fields : List (String × Json)) :
    nested (.object fields) =
      '\x7b' :: ([',', ' '].intercalate (fields.map entry) ++ ['\x7d']) := by
  rw [nested, nestedFields_eq_map]
  rfl

/-- An entry of a mapping is read back if its value is. -/
theorem readEntry_entry {readValue : List Char → Read Json} {field : String × Json}
    {rest : List Char} (h : readValue (nested field.2 ++ rest) = some (field.2, rest)) :
    readEntry readValue (entry field ++ rest) = some (field, rest) := by
  simp only [entry, Text.quoteChars, List.cons_append, List.append_assoc, List.nil_append]
  rw [readEntry, readQuoted_escape]
  simp only [h, Option.map_some, String.ofList_toList]

/-- A list is read back if its items are, one level below. -/
theorem readValue_array {items : List Json} {depth : Nat} (h : ∀ item ∈ items,
      ∀ {rest : List Char}, Ends rest → readValue depth (nested item ++ rest) = some (item, rest))
    (rest : List Char) :
    readValue (depth + 1) (nested (.array items) ++ rest) = some (.array items, rest) := by
  cases items with
  | nil => rfl
  | cons item items =>
    have hcount := length_le_length_intercalate nested (item :: items) ']' rest
    have hread := readParts_intercalate (.inl rfl) (List.cons_ne_nil item items) h hcount rest
    rw [nested_array, List.cons_append, List.append_assoc, List.singleton_append, readValue, hread,
      Option.map_some]
    -- a list with items is not taken for the empty one
    intro others hclosed
    obtain ⟨c, chars, hitem, hc, -⟩ := exists_nested_eq_cons item
    obtain ⟨chars, hchars⟩ := exists_intercalate_eq_cons hitem (items.map nested)
    rw [List.map_cons, hchars] at hclosed
    exact hc (List.cons.inj hclosed).1

/-- A mapping is read back if its values are, one level below. -/
theorem readValue_object {fields : List (String × Json)} {depth : Nat} (h : ∀ field ∈ fields,
      ∀ {rest : List Char}, Ends rest →
        readValue depth (nested field.2 ++ rest) = some (field.2, rest))
    (rest : List Char) :
    readValue (depth + 1) (nested (.object fields) ++ rest) = some (.object fields, rest) := by
  cases fields with
  | nil => rfl
  | cons field fields =>
    have hcount := length_le_length_intercalate entry (field :: fields) '\x7d' rest
    have hread := readParts_intercalate (.inr rfl) (List.cons_ne_nil field fields)
      (fun field hfield _ hrest => readEntry_entry (h field hfield hrest)) hcount rest
    rw [nested_object, List.cons_append, List.append_assoc, List.singleton_append, readValue, hread,
      Option.map_some]
    intro others hclosed
    obtain ⟨chars, hchars⟩ := exists_intercalate_eq_cons (rfl : entry field = '\'' :: _)
      (fields.map entry)
    rw [List.map_cons, hchars] at hclosed
    exact absurd (List.cons.inj hclosed).1 (by decide)

/-- Reading a literal gives its value and leaves what follows. -/
theorem readValue_nested (value : Json) {depth : Nat} (hdepth : value.depth ≤ depth)
    {rest : List Char} (hrest : Ends rest) :
    readValue (depth + 1) (nested value ++ rest) = some (value, rest) := by
  induction value using Json.inductionOn generalizing depth rest with
  | null => rfl
  | bool value => cases value <;> rfl
  | int value =>
    obtain ⟨numeral, hproper, htext, hvalue⟩ := Json.exists_numeral value
    rw [nested, htext, readValue_numeral hproper depth hrest, hvalue]
  | float value =>
    obtain ⟨numeral, hproper, htext, hvalue⟩ := value.exists_numeral
    rw [nested, htext, readValue_numeral hproper depth hrest, hvalue]
  | string value => exact readValue_quoteChars value depth rest
  | array items ih =>
    obtain ⟨depth, rfl⟩ := Nat.exists_eq_add_one_of_ne_zero (Nat.ne_zero_of_lt hdepth)
    have hitems := Json.itemsDepth_le_iff.mp (Nat.le_of_succ_le_succ hdepth)
    exact readValue_array (fun item hitem => ih item hitem (hitems item hitem)) rest
  | object fields ih =>
    obtain ⟨depth, rfl⟩ := Nat.exists_eq_add_one_of_ne_zero (Nat.ne_zero_of_lt hdepth)
    have hfields := Json.entriesDepth_le_iff.mp (Nat.le_of_succ_le_succ hdepth)
    exact readValue_object (fun field hfield => ih field hfield (hfields field hfield)) rest

/-- Lists and mappings need brackets, so a value is nested less deep than its literal is long. -/
theorem depth_lt_length_nested (value : Json) : value.depth < (nested value).length := by
  induction value using Json.inductionOn with
  | array items ih =>
    have hitems : Json.itemsDepth items ≤ ([',', ' '].intercalate (items.map nested)).length :=
      Json.itemsDepth_le_iff.mpr fun item hitem =>
        Nat.le_trans (Nat.le_of_lt (ih item hitem))
          (length_le_of_mem_intercalate (List.mem_map_of_mem hitem))
    rw [Json.depth, nested_array]
    simp only [List.length_cons, List.length_append]
    omega
  | object fields ih =>
    have hentry : ∀ field ∈ fields, field.2.depth ≤ (entry field).length := by
      intro field hfield
      have hvalue := ih field hfield
      simp only [entry, List.length_append, List.length_cons]
      omega
    have hfields : Json.entriesDepth fields ≤ ([',', ' '].intercalate (fields.map entry)).length :=
      Json.entriesDepth_le_iff.mpr fun field hfield => Nat.le_trans (hentry field hfield)
        (length_le_of_mem_intercalate (List.mem_map_of_mem hfield))
    rw [Json.depth, nested_object]
    simp only [List.length_cons, List.length_append]
    omega
  | _ =>
    obtain ⟨c, rest, hcons, -⟩ := exists_nested_eq_cons _
    rw [hcons]
    exact Nat.succ_pos _

/-- Reading undoes writing. -/
theorem read_nested (value : Json) : read (nested value) = some value := by
  have hdepth := depth_lt_length_nested value
  obtain ⟨depth, hlength⟩ := Nat.exists_eq_add_one_of_ne_zero (Nat.ne_zero_of_lt hdepth)
  have hread := readValue_nested value (Nat.le_of_lt_succ (hlength ▸ hdepth)) Json.Numeral.ends_nil
  rw [List.append_nil] at hread
  rw [read, hlength, hread]

/-- Different values are written differently inside lists and mappings. -/
theorem nested_injective {a b : Json} (h : nested a = nested b) : a = b :=
  Option.some_inj.mp ((read_nested a).symm.trans (h ▸ read_nested b))

/-! ## Bare texts -/

/-- A value stands in a listing with its texts in quotes, unless it is an identifier. -/
theorem value_cases (literal : Json) :
    (∃ text, literal = .string text ∧ Text.isIdentifier text = true ∧
      value literal = text.toList) ∨ value literal = nested literal := by
  cases literal with
  | string text =>
    by_cases hbare : Text.isIdentifier text = true
    · exact .inl ⟨text, rfl, hbare, by rw [value, if_pos hbare]⟩
    · exact .inr (by rw [value, if_neg hbare])
  | _ => exact .inr rfl

/-- A bare text can only be taken for a constant. -/
theorem spells_of_toList_eq {text : String} (htext : Text.isIdentifier text = true) {other : Json}
    (h : text.toList = nested other) : Spells (.string text) other := by
  obtain ⟨c, rest, hcons, -, hspelled⟩ := exists_nested_eq_cons other
  rw [Text.isIdentifier, h, hcons, Bool.and_eq_true] at htext
  obtain ⟨word, hword⟩ := hspelled htext.1
  obtain rfl : text = word := String.toList_injective (h.trans hword.nested_eq)
  exact hword

/-- A text that spells a constant is written as the constant. -/
theorem Spells.value_eq {text constant : Json} (h : Spells text constant) :
    value text = value constant := by
  cases h <;> rfl

/-- Every value is read back from its literal. In a listing two values have the same literal exactly
if they are equal, or one is a text that spells the other, a constant. -/
theorem read_nested_and_value_eq_iff :
    (∀ literal : Json, read (nested literal) = some literal) ∧
      ∀ a b : Json, value a = value b ↔ a = b ∨ Spells a b ∨ Spells b a := by
  refine ⟨read_nested, fun a b => ⟨fun h => ?_, ?_⟩⟩
  · rcases value_cases a with ⟨text, rfl, htext, ha⟩ | ha
    · rcases value_cases b with ⟨other, rfl, -, hb⟩ | hb
      · rw [ha, hb] at h
        exact .inl (congrArg Json.string (String.toList_injective h))
      · exact .inr (.inl (spells_of_toList_eq htext (by rw [← ha, h, hb])))
    · rcases value_cases b with ⟨other, rfl, hother, hb⟩ | hb
      · exact .inr (.inr (spells_of_toList_eq hother (by rw [← hb, ← h, ha])))
      · exact .inl (nested_injective (by rw [← ha, h, hb]))
  · rintro (rfl | hspells | hspells)
    · rfl
    · exact hspells.value_eq
    · exact hspells.value_eq.symm

end Literal

end Dataflow
