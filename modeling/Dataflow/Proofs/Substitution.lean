import Dataflow.Proofs.Dictionary
import Dataflow.Proofs.Document
import Dataflow.Proofs.FilePaths
import Dataflow.Proofs.Templates
import Mathlib.Data.List.Find

/-!
# Filling all places at once

A flat template is filled one name after another, and what is filled in for one name is gone through
again for the next. Where names are identifiers and the texts of a node hold no braces, this makes
no difference. The only braces that literals bring in are those of mappings, and behind an opening
one stands a quote or a closing brace, so no placeholder arises in a literal or across its ends. All
places can then be filled at once, and the order of declarations does not matter.
-/

namespace Dataflow

namespace Text

/-- A text without braces. -/
def Unbraced (text : List Char) : Prop := '\x7b' ∉ text ∧ '\x7d' ∉ text

instance : DecidablePred Unbraced := fun text =>
  inferInstanceAs (Decidable ('\x7b' ∉ text ∧ '\x7d' ∉ text))

/-- A text in which no placeholder of an identifier begins: behind every opening brace stands a
character that begins no identifier. -/
def Inert : List Char → Prop
  | [] => True
  | c :: rest => (c = '\x7b' → ∃ d ∈ rest.head?, isWordStart d = false) ∧ Inert rest

theorem inert_nil : Inert [] := trivial

/-- A character that is no opening brace begins no placeholder. -/
theorem Inert.cons {c : Char} {rest : List Char} (hc : c ≠ '\x7b') (h : Inert rest) :
    Inert (c :: rest) :=
  ⟨fun hbrace => absurd hbrace hc, h⟩

/-- A text without opening braces is inert. -/
theorem inert_of_not_mem {text : List Char} (h : '\x7b' ∉ text) : Inert text := by
  induction text with
  | nil => exact inert_nil
  | cons c rest ih =>
    obtain ⟨hc, hrest⟩ := not_or.mp (mt List.mem_cons.mpr h)
    exact (ih hrest).cons (Ne.symm hc)

/-- Inert texts can be put together. -/
theorem Inert.append {text more : List Char} (h : Inert text) (hmore : Inert more) :
    Inert (text ++ more) := by
  induction text with
  | nil => exact hmore
  | cons c rest ih =>
    refine ⟨fun hbrace => ?_, ih h.2⟩
    obtain ⟨d, hd, hstart⟩ := h.1 hbrace
    refine ⟨d, ?_, hstart⟩
    change (rest ++ more).head? = some d
    rw [List.head?_append, Option.mem_def.mp hd, Option.some_or]

/-- Inert texts with an inert separator between them are inert. -/
theorem inert_intercalate {separator : List Char} (hseparator : Inert separator)
    {texts : List (List Char)} (h : ∀ text ∈ texts, Inert text) :
    Inert (separator.intercalate texts) := by
  induction texts with
  | nil => exact inert_nil
  | cons first texts ih =>
    obtain ⟨hfirst, hothers⟩ := List.forall_mem_cons.mp h
    cases texts with
    | nil => rwa [List.intercalate_singleton]
    | cons second texts =>
      rw [List.intercalate_cons_cons]
      exact (hfirst.append hseparator).append (ih hothers)

/-- Escaping brings in backslashes only. -/
theorem mem_of_mem_escape {text : List Char} {c : Char} (h : c ∈ escape text) :
    c = '\\' ∨ c ∈ text := by
  induction text with
  | nil => contradiction
  | cons d rest ih =>
    rw [escape] at h
    split at h <;> grind

/-- A text without opening braces is inert in quotes as well. -/
theorem inert_quoteChars {text : List Char} (h : '\x7b' ∉ text) : Inert (quoteChars text) := by
  have hescape : '\x7b' ∉ escape text := fun hmem =>
    (mem_of_mem_escape hmem).elim (by decide) h
  exact ((inert_of_not_mem hescape).append (inert_of_not_mem (by decide))).cons (by decide)

end Text

open Text (Inert Unbraced)

namespace Listing

/-! ## One name -/

variable {literal : String → List Char} {names : List String} {name other : String}

/-- No placeholder begins in an inert text, whatever stands behind it. -/
theorem replaceAll_inert_append (hname : Text.isIdentifier name = true) {text : List Char}
    (h : Inert text) (replacement rest : List Char) :
    Text.replaceAll (placeholder name) replacement (text ++ rest) =
      text ++ Text.replaceAll (placeholder name) replacement rest := by
  induction text with
  | nil => rfl
  | cons c text ih =>
    have hstart : ¬placeholder name <+: c :: (text ++ rest) := by
      intro hstarts
      obtain ⟨rfl, hbehind⟩ := List.cons_prefix_cons.mp hstarts
      obtain ⟨d, hd, hword⟩ := h.1 rfl
      obtain ⟨others, rfl⟩ : ∃ others, text = d :: others := List.head?_eq_some_iff.mp hd
      unfold Text.isIdentifier at hname
      cases hchars : name.toList with
      | nil => simp [hchars] at hname
      | cons e chars =>
        rw [hchars] at hname hbehind
        obtain ⟨rfl, -⟩ := List.cons_prefix_cons.mp hbehind
        simp [hword] at hname
    rw [List.cons_append, Text.replaceAll_cons hstart, ih h.2, List.cons_append]

/-- The closing brace ends a name, so a placeholder begins at no other placeholder. -/
theorem replaceAll_placeholder_append (hname : Text.isIdentifier name = true)
    (hother : Unbraced other.toList) (hne : other ≠ name) (replacement rest : List Char) :
    Text.replaceAll (placeholder name) replacement (placeholder other ++ rest) =
      placeholder other ++ Text.replaceAll (placeholder name) replacement rest := by
  have hclose : '\x7d' ∉ name.toList := fun hmem =>
    absurd (Text.isWordChar_of_isIdentifier hname hmem) (by decide)
  have hstart : ¬placeholder name <+: '\x7b' :: (other.toList ++ ['\x7d'] ++ rest) := by
    intro hstarts
    obtain ⟨more, hmore⟩ := (List.cons_prefix_cons.mp hstarts).2
    rw [List.append_assoc, List.append_assoc, List.singleton_append, List.singleton_append] at hmore
    have hbegins := Text.prefix_of_prefix_append_cons hclose ⟨_, hmore⟩
    have hlength := (Text.prefix_of_prefix_append_cons hother.2 ⟨_, hmore.symm⟩).length_le
    exact hne (String.toList_injective (hbegins.eq_of_length_le hlength).symm)
  have hbehind : Inert (other.toList ++ ['\x7d']) :=
    (Text.inert_of_not_mem hother.1).append (Text.inert_of_not_mem (by decide))
  have hother : placeholder other = '\x7b' :: (other.toList ++ ['\x7d']) := rfl
  rw [hother, List.cons_append, Text.replaceAll_cons hstart,
    replaceAll_inert_append hname hbehind, List.cons_append]

/-! ## All names -/

/-- A part of a flat template. -/
inductive Piece where
  /-- A text that stays as it is. -/
  | text (chars : List Char)
  /-- The place of a name. -/
  | place (name : String)

namespace Piece

/-- A part as it stands in the template. -/
def chars : Piece → List Char
  | .text chars => chars
  | .place name => placeholder name

/-- A part with its place filled if its name is among given ones. -/
def filled (literal : String → List Char) (names : List String) : Piece → List Char
  | .text chars => chars
  | .place name => if name ∈ names then literal name else placeholder name

/-- A part without braces other than those of its place. -/
def IsPlain : Piece → Prop
  | .text chars => Unbraced chars
  | .place name => Unbraced name.toList

instance : DecidablePred IsPlain
  | .text chars => inferInstanceAs (Decidable (Unbraced chars))
  | .place name => inferInstanceAs (Decidable (Unbraced name.toList))

/-- A part in which no other placeholder begins. -/
def IsInert : Piece → Prop
  | .text chars => Inert chars
  | .place name => Unbraced name.toList

/-- A part after the places of a name have been filled. -/
def settle (literal : String → List Char) (name : String) : Piece → Piece
  | .text chars => .text chars
  | .place other => if other = name then .text (literal name) else .place other

/-- A plain part is inert. -/
theorem IsPlain.isInert {piece : Piece} (h : piece.IsPlain) : piece.IsInert := by
  cases piece with
  | text chars => exact Text.inert_of_not_mem h.1
  | place name => exact h

/-- Filling a place with an inert text leaves a part inert. -/
theorem IsInert.settle {piece : Piece} (h : piece.IsInert) (hliteral : Inert (literal name)) :
    (piece.settle literal name).IsInert := by
  cases piece with
  | text chars => exact h
  | place other =>
    rw [Piece.settle]
    split
    · exact hliteral
    · exact h

/-- Places can be filled name by name. -/
theorem filled_settle (piece : Piece) :
    (piece.settle literal name).filled literal names = piece.filled literal (name :: names) := by
  cases piece with
  | text chars => rfl
  | place other =>
    rw [settle]
    split
    · next heq => simp [filled, heq]
    · next hne => simp [filled, hne]

/-- The order of the names and repeats among them do not matter. -/
theorem filled_congr {others : List String} (h : ∀ name, name ∈ names ↔ name ∈ others) :
    filled literal names = filled literal others := by
  funext piece
  cases piece with
  | text chars => rfl
  | place name => simp only [filled, h]

end Piece

/-- Filling the places of one name leaves all other parts as they are. -/
theorem replaceAll_flatMap_chars (hname : Text.isIdentifier name = true) {pieces : List Piece}
    (h : ∀ piece ∈ pieces, piece.IsInert) :
    Text.replaceAll (placeholder name) (literal name) (pieces.flatMap Piece.chars) =
      (pieces.map (Piece.settle literal name)).flatMap Piece.chars := by
  induction pieces with
  | nil => exact Text.replaceAll_nil
  | cons piece pieces ih =>
    obtain ⟨hpiece, hpieces⟩ := List.forall_mem_cons.mp h
    rw [List.map_cons, List.flatMap_cons, List.flatMap_cons, ← ih hpieces]
    cases piece with
    | text chars => exact replaceAll_inert_append hname hpiece _ _
    | place other =>
      rw [Piece.settle]
      split
      · next heq =>
        rw [heq]
        exact Text.replaceAll_pattern_append (placeholder_ne_nil name) _
      · next hne => exact replaceAll_placeholder_append hname hpiece hne _ _

/-- Filling one name after another fills all places at once. -/
theorem fill_flatMap_chars (hnames : ∀ name ∈ names, Text.isIdentifier name = true)
    (hliterals : ∀ name ∈ names, Inert (literal name)) {pieces : List Piece}
    (hpieces : ∀ piece ∈ pieces, piece.IsInert) :
    fill literal names (pieces.flatMap Piece.chars) =
      pieces.flatMap (Piece.filled literal names) := by
  induction names generalizing pieces with
  | nil =>
    refine List.flatMap_congr fun piece _ => ?_
    cases piece <;> rfl
  | cons name names ih =>
    obtain ⟨hname, hnames⟩ := List.forall_mem_cons.mp hnames
    obtain ⟨hliteral, hliterals⟩ := List.forall_mem_cons.mp hliterals
    have hsettled : ∀ piece ∈ pieces.map (Piece.settle literal name), piece.IsInert := by
      intro settled hsettled
      obtain ⟨piece, hpiece, rfl⟩ := List.mem_map.mp hsettled
      exact (hpieces piece hpiece).settle hliteral
    rw [fill_cons, replaceAll_flatMap_chars hname hpieces, ih hnames hliterals hsettled,
      List.flatMap_map]
    exact List.flatMap_congr fun piece _ => piece.filled_settle

end Listing

/-! ## Literals -/

namespace Json

mutual

/-- The texts in a value, with the names of entries. -/
def texts : Json → List String
  | .string text => [text]
  | .array items => itemsTexts items
  | .object fields => fieldsTexts fields
  | _ => []

/-- The texts in the items of a list. -/
def itemsTexts : List Json → List String
  | [] => []
  | item :: rest => texts item ++ itemsTexts rest

/-- The names and the texts in the entries of an object. -/
def fieldsTexts : List (String × Json) → List String
  | [] => []
  | (name, value) :: rest => name :: (texts value ++ fieldsTexts rest)

end

/-- Every text in a value is without braces. -/
def Unbraced (value : Json) : Prop := ∀ text ∈ value.texts, Text.Unbraced text.toList

instance : DecidablePred Json.Unbraced := fun value =>
  inferInstanceAs (Decidable (∀ text ∈ value.texts, Text.Unbraced text.toList))

theorem texts_subset_array {items : List Json} {item : Json} (h : item ∈ items) :
    item.texts ⊆ (array items).texts := by
  rw [texts]
  induction items with
  | nil => contradiction
  | cons first items ih =>
    rw [itemsTexts]
    rcases List.mem_cons.mp h with rfl | h
    · exact List.subset_append_left _ _
    · exact List.subset_append_of_subset_right _ (ih h)

theorem texts_subset_object {fields : List (String × Json)} {field : String × Json}
    (h : field ∈ fields) : field.1 :: field.2.texts ⊆ (object fields).texts := by
  rw [texts]
  induction fields with
  | nil => contradiction
  | cons first fields ih =>
    rw [fieldsTexts]
    rcases List.mem_cons.mp h with rfl | h
    · exact List.cons_subset_cons _ (List.subset_append_left _ _)
    · exact List.subset_cons_of_subset _ (List.subset_append_of_subset_right _ (ih h))

end Json

namespace Literal

/-- Numbers have no braces. -/
theorem inert_numeral {numeral : Json.Numeral} (h : numeral.IsProper) : Inert numeral.text := by
  refine Text.inert_of_not_mem fun hmem => ?_
  exact absurd (Json.Numeral.isDigit_or_mem_of_mem_text h hmem) (by decide)

/-- If no text in a value has a brace, its literal is inert: the braces of mappings stand before
quotes or braces. -/
theorem inert_nested {value : Json} (h : value.Unbraced) : Inert (nested value) := by
  induction value using Json.inductionOn with
  | null => exact Text.inert_of_not_mem (by decide)
  | bool value => cases value <;> exact Text.inert_of_not_mem (by decide)
  | int value =>
    obtain ⟨numeral, hproper, htext, -⟩ := Json.exists_numeral value
    rw [nested, htext]
    exact inert_numeral hproper
  | float value =>
    obtain ⟨numeral, hproper, htext, -⟩ := value.exists_numeral
    rw [nested, htext]
    exact inert_numeral hproper
  | string value => exact Text.inert_quoteChars (h value List.mem_cons_self).1
  | array items ih =>
    have hitems : ∀ text ∈ items.map nested, Inert text := by
      intro text htext
      obtain ⟨item, hitem, rfl⟩ := List.mem_map.mp htext
      exact ih item hitem fun text htext => h text (Json.texts_subset_array hitem htext)
    have hlist := Text.inert_intercalate (Text.inert_of_not_mem (by decide : '\x7b' ∉ [',', ' ']))
      hitems
    rw [nested_array]
    exact (hlist.append (Text.inert_of_not_mem (by decide))).cons (by decide)
  | object fields ih =>
    have hfields : ∀ text ∈ fields.map entry, Inert text := by
      intro text htext
      obtain ⟨field, hfield, rfl⟩ := List.mem_map.mp htext
      obtain ⟨hname, hvalue⟩ := List.forall_mem_cons.mp fun text htext =>
        h text (Json.texts_subset_object hfield htext)
      exact (Text.inert_quoteChars hname.1).append
        (((ih field hfield hvalue).cons (by decide)).cons (by decide))
    have hlist := Text.inert_intercalate (Text.inert_of_not_mem (by decide : '\x7b' ∉ [',', ' ']))
      hfields
    rw [nested_object]
    refine ⟨fun _ => ?_, hlist.append (Text.inert_of_not_mem (by decide))⟩
    -- the first entry begins with a quote, and an empty mapping is closed at once
    cases fields with
    | nil => exact ⟨'\x7d', rfl, rfl⟩
    | cons field fields =>
      obtain ⟨chars, hchars⟩ := exists_intercalate_eq_cons (rfl : entry field = '\'' :: _)
        (fields.map entry)
      rw [List.map_cons, hchars]
      exact ⟨'\'', rfl, rfl⟩

/-- Nor does a placeholder begin in the literal of such a value where it stands alone. -/
theorem inert_value {literal : Json} (h : literal.Unbraced) : Inert (value literal) := by
  rcases value_cases literal with ⟨text, rfl, -, hbare⟩ | hnested
  · rw [hbare]
    exact Text.inert_of_not_mem (h text List.mem_cons_self).1
  · rw [hnested]
    exact inert_nested h

/-- A path without braces under a root without braces is inert. -/
theorem inert_filePath {path : String} (hpath : Unbraced path.toList) {root : Option String}
    (hroot : ∀ folder ∈ root, Unbraced folder.toList) : Inert (filePath path root) := by
  refine Text.inert_quoteChars fun hmem => ?_
  rcases mem_resolvePath hmem with hpath' | ⟨folder, hfolder, hmem⟩ | hchars
  · exact hpath.1 hpath'
  · exact (hroot folder hfolder).1 hmem
  · exact absurd hchars (by decide)

/-- Whatever a parameter is for, its literal is inert if no text in its value has a brace. -/
theorem inert_parameter (name : String) {root : Option String} {literal : Json}
    (hroot : ∀ folder ∈ root, Unbraced folder.toList) (h : literal.Unbraced) :
    Inert (parameter name root literal) := by
  cases literal with
  | string text =>
    rw [parameter]
    split
    · exact inert_filePath (h text List.mem_cons_self) hroot
    · exact inert_value h
  | _ => exact inert_value h

end Literal

/-! ## Nodes -/

/-- The names of parameters and ports. -/
def Schema.declaredNames (schema : Schema) : List String :=
  schema.parameters.map Parameter.name ++ (schema.inputNames ++ schema.outputNames)

namespace Node

variable {node other : Node} {layout : Layout} {entering : Dictionary String}

/-- No text that the code of a node is made from holds a brace, its template apart. -/
structure Unbraced (node : Node) (layout : Layout) (entering : Dictionary String) : Prop where
  /-- The values that the node holds. -/
  values : ∀ entry ∈ node.values.entries, entry.2.Unbraced
  /-- The values of the schema. -/
  fallbacks : ∀ parameter ∈ node.schema.parameters, parameter.fallback.Unbraced
  /-- The variables of the outputs. -/
  bindings : ∀ binding ∈ node.bindings, Text.Unbraced binding.name.toList
  /-- The variables that enter the inputs. -/
  entering : ∀ entry ∈ entering.entries, Text.Unbraced entry.2.toList
  /-- The root directory. -/
  rootDir : ∀ root ∈ layout.rootDir, Text.Unbraced root.toList

/-- Nodes that differ in the order of declarations only. -/
structure IsReordering (other node : Node) : Prop where
  /-- The parameters in another order. -/
  parameters : other.schema.parameters.Perm node.schema.parameters
  /-- The inputs in another order. -/
  inputs : other.schema.inputs.Perm node.schema.inputs
  /-- The outputs in another order. -/
  outputs : other.schema.outputs.Perm node.schema.outputs
  /-- The same values. -/
  values : other.values = node.values
  /-- The same variable for each output. -/
  binding? : ∀ port, other.binding? port = node.binding? port

/-- Placeholders are filled for exactly the declared names. -/
theorem mem_placeholderNames_iff {name : String} :
    name ∈ node.placeholderNames ↔ name ∈ node.schema.declaredNames := by
  simp only [placeholderNames, Schema.declaredNames, List.mem_append, List.mem_filter,
    mem_distinct_iff]
  by_cases hparameter : name ∈ node.schema.parameters.map Parameter.name
  · simp only [hparameter, true_or]
  · simp [hparameter]

/-- The values that a node holds or falls back to are without braces. -/
theorem unbraced_valueOrDefault (h : node.Unbraced layout entering) (name : String) :
    (node.valueOrDefault name).Unbraced := by
  unfold valueOrDefault
  split
  · next value hvalue => exact h.values _ (Dictionary.mem_entries_of_get? hvalue)
  · cases hparameter : node.schema.parameter? name with
    | none => exact fun _ hnull => absurd hnull List.not_mem_nil
    | some parameter => exact h.fallbacks parameter (List.mem_of_find?_eq_some hparameter)

/-- What a name of the node stands for is without braces. -/
theorem unbraced_resolve (h : node.Unbraced layout entering) (name : String) :
    (node.resolve entering name).Unbraced := by
  have hnull : Json.null.Unbraced := fun _ htext => absurd htext List.not_mem_nil
  have hstring {text : String} (htext : Text.Unbraced text.toList) : (Json.string text).Unbraced :=
    fun _ hmem => List.mem_singleton.mp hmem ▸ htext
  unfold resolve
  split
  · split
    · next variableName hentering =>
      exact hstring (h.entering _ (Dictionary.mem_entries_of_get? hentering))
    · split
      · exact hnull
      · exact unbraced_valueOrDefault h name
  · cases hbinding : node.binding? name with
    | none => exact hnull
    | some variableName =>
      obtain ⟨binding, hfound, rfl⟩ := Option.map_eq_some_iff.mp hbinding
      exact hstring (h.bindings binding (List.mem_of_find?_eq_some hfound))
  · exact unbraced_valueOrDefault h name

/-- The literals of such a node are inert. -/
theorem inert_literal (h : node.Unbraced layout entering) (name : String) :
    Inert (node.literal layout entering name) :=
  Literal.inert_parameter name h.rootDir (unbraced_resolve h name)

/-! ## The order of declarations -/

/-- What is found under a name does not depend on the order if names are distinct. -/
theorem find?_eq_of_perm {α : Type} {key : α → String} {items reordered : List α}
    (h : reordered.Perm items) (hnames : (items.map key).Nodup) (name : String) :
    (reordered.find? fun item => key item == name) = items.find? fun item => key item == name := by
  refine (List.find?_eq_find?_of_perm h.symm ?_).symm
  rintro a ⟨ha, haname⟩ b ⟨hb, hbname⟩
  rw [beq_iff_eq] at haname hbname
  exact List.inj_on_of_nodup_map hnames ha hb (haname.trans hbname.symm)

theorem IsReordering.mem_declaredNames_iff (h : other.IsReordering node) (name : String) :
    name ∈ other.schema.declaredNames ↔ name ∈ node.schema.declaredNames := by
  have hparameters := (h.parameters.map Parameter.name).mem_iff (a := name)
  have hinputs := (h.inputs.map Port.name).mem_iff (a := name)
  have houtputs := (h.outputs.map Port.name).mem_iff (a := name)
  simp only [Schema.declaredNames, List.mem_append, Schema.inputNames, Schema.outputNames,
    Port.names, hparameters, hinputs, houtputs]

/-- With different names, the order of declarations does not matter for literals. -/
theorem IsReordering.literal_eq (h : other.IsReordering node)
    (hparameters : (node.schema.parameters.map Parameter.name).Nodup)
    (hinputs : node.schema.inputNames.Nodup) (name : String) :
    other.literal layout entering name = node.literal layout entering name := by
  have hparameter : other.schema.parameter? name = node.schema.parameter? name :=
    find?_eq_of_perm h.parameters hparameters name
  have hinput : other.schema.input? name = node.schema.input? name :=
    find?_eq_of_perm h.inputs hinputs name
  have houtput : (other.schema.output? name).isSome = (node.schema.output? name).isSome := by
    rw [Bool.eq_iff_iff, Schema.isSome_output?_iff, Schema.isSome_output?_iff]
    exact (h.outputs.map Port.name).mem_iff
  have hrole : other.roleOf name = node.roleOf name := by
    simp only [roleOf, hparameter, hinput, houtput]
  have hneeds : other.needsInput name = node.needsInput name := by
    rw [needsInput, needsInput, hinput]
  have hvalue : other.valueOrDefault name = node.valueOrDefault name := by
    rw [valueOrDefault, valueOrDefault, h.values, hparameter]
  rw [literal, literal, resolve, resolve, hrole, hneeds, hvalue, h.binding? name]

end Node

namespace Listing

open Node

variable {node : Node} {layout : Layout} {entering : Dictionary String} {template : String}
  {pieces : List Piece}

/-- If all literals are inert, filling the places one after another is filling them at once. -/
theorem flatCode_eq_filled (htemplate : template.toList = pieces.flatMap Piece.chars)
    (hpieces : ∀ piece ∈ pieces, piece.IsPlain)
    (hnames : ∀ name ∈ node.schema.declaredNames, Text.isIdentifier name = true)
    (hliterals : ∀ name, Inert (node.literal layout entering name)) :
    flatCode node layout entering template = Text.trimEnd (pieces.flatMap
      (Piece.filled (node.literal layout entering) node.schema.declaredNames)) := by
  have hfilled := fill_flatMap_chars
    (fun name hname => hnames name (mem_placeholderNames_iff.mp hname))
    (fun name _ => hliterals name) (fun piece hpiece => (hpieces piece hpiece).isInert)
  rw [flatCode, htemplate, hfilled, Piece.filled_congr fun name => mem_placeholderNames_iff]

/-- Filling a flat template name by name fills each place of a parameter or port once with its
literal, leaves all other places, and trims the end. So where parameters have different names and
inputs too, the code does not depend on the order of declarations. -/
theorem flatCode_simultaneous (htemplate : template.toList = pieces.flatMap Piece.chars)
    (hpieces : ∀ piece ∈ pieces, piece.IsPlain)
    (hnames : ∀ name ∈ node.schema.declaredNames, Text.isIdentifier name = true)
    (htexts : node.Unbraced layout entering) :
    flatCode node layout entering template = Text.trimEnd (pieces.flatMap
        (Piece.filled (node.literal layout entering) node.schema.declaredNames)) ∧
      ((node.schema.parameters.map Parameter.name).Nodup → node.schema.inputNames.Nodup →
        ∀ other : Node, other.IsReordering node →
          flatCode other layout entering template = flatCode node layout entering template) := by
  have hcode := flatCode_eq_filled htemplate hpieces hnames (inert_literal htexts)
  refine ⟨hcode, fun hparameters hinputs other hother => ?_⟩
  have hliterals : other.literal layout entering = node.literal layout entering :=
    funext fun name => hother.literal_eq hparameters hinputs name
  have hothers : ∀ name ∈ other.schema.declaredNames, Text.isIdentifier name = true :=
    fun name hname => hnames name ((hother.mem_declaredNames_iff name).mp hname)
  have hreordered := flatCode_eq_filled htemplate hpieces hothers
    (fun name => hliterals ▸ inert_literal htexts name)
  rw [hreordered, hcode, hliterals, Piece.filled_congr hother.mem_declaredNames_iff]

/-- A node that holds a mapping in a mapping and a path. -/
def sampleReader : Node :=
  let schema : Schema :=
    { Schema.unassigned with
      inputs := [.needed "data" "frame", .optional "index" "frame"]
      outputs := [.optional "out" "frame"]
      parameters := [.plain "options" "object" .null, .plain "filepath" "string" (.string "t.csv")] }
  { Node.create "b" 2 schema with
    values := .ofList [("options", .object [("a", .object []), ("x, y", .array [.int (-1)])])] }

/-- The same node with its parameters and inputs the other way round. -/
def sampleTurned : Node :=
  { sampleReader with
    schema :=
      { sampleReader.schema with
        inputs := sampleReader.schema.inputs.reverse
        parameters := sampleReader.schema.parameters.reverse } }

/-- A template with a place twice, places side by side and one of no name. -/
def samplePieces : List Piece :=
  [.place "out", .text " = ".toList, .place "options", .place "data", .place "missing",
    .text "+".toList, .place "filepath", .place "options", .text " \n".toList]

/-- A mapping in a mapping is filled in without harm to the places beside it. -/
theorem flatCode_simultaneous_sampleReader :
    let template := "\x7bout\x7d = \x7boptions\x7d\x7bdata\x7d\x7bmissing\x7d" ++
      "+\x7bfilepath\x7d\x7boptions\x7d \n"
    let layout : Layout := ⟨some "C:\\d", [], false⟩
    let entering : Dictionary String := .ofList [("data", "n01_out")]
    template.toList = samplePieces.flatMap Piece.chars ∧
      (∀ piece ∈ samplePieces, piece.IsPlain) ∧
      (∀ name ∈ sampleReader.schema.declaredNames, Text.isIdentifier name = true) ∧
      sampleReader.Unbraced layout entering ∧ sampleTurned.IsReordering sampleReader ∧
      flatCode sampleReader layout entering template =
        ("n02_out = \x7b'a': \x7b\x7d, 'x, y': [-1]\x7dn01_out\x7bmissing\x7d" ++
          "+'C:\\\\d\\\\dataset\\\\t.csv'\x7b'a': \x7b\x7d, 'x, y': [-1]\x7d").toList ∧
      flatCode sampleTurned layout entering template =
        flatCode sampleReader layout entering template := by
  intro template layout entering
  have htemplate : template.toList = samplePieces.flatMap Piece.chars := by decide
  have hpieces : ∀ piece ∈ samplePieces, piece.IsPlain := by decide
  have hnames : ∀ name ∈ sampleReader.schema.declaredNames, Text.isIdentifier name = true := by
    decide
  have htexts : sampleReader.Unbraced layout entering :=
    ⟨by decide, by decide, by decide, by decide, by decide⟩
  have hturned : sampleTurned.IsReordering sampleReader :=
    ⟨List.reverse_perm _, List.reverse_perm _, .refl _, rfl, fun _ => rfl⟩
  obtain ⟨hcode, horder⟩ := flatCode_simultaneous htemplate hpieces hnames htexts
  exact ⟨htemplate, hpieces, hnames, htexts, hturned, hcode.trans (by decide),
    horder (by decide) (by decide) sampleTurned hturned⟩

end Listing

end Dataflow
