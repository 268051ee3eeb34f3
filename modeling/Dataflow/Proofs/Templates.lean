import Dataflow.Listing
import Dataflow.Proofs.Replace
import Mathlib.Data.List.Chain

/-!
# Places in templates

A flat template is filled one name after another, and each filling goes through the whole text, also
through what was filled in before. Where names are words and placeholders stand apart from words and
from each other, the text before a place, what is filled in there and the text behind it are filled
independently. So at the place of a name stands its literal, and in the literal the placeholders of
the names that come later are filled as well.
-/

namespace Dataflow.Listing

/-- A character that stands in no placeholder of a word. -/
def IsBoundary (c : Char) : Prop := Text.isWordChar c = false ∧ c ≠ '\x7b' ∧ c ≠ '\x7d'

instance : DecidablePred IsBoundary := fun c =>
  inferInstanceAs (Decidable (Text.isWordChar c = false ∧ c ≠ '\x7b' ∧ c ≠ '\x7d'))

/-- A name made of characters of identifiers. -/
def IsWord (name : String) : Prop := name.toList.all Text.isWordChar = true

instance : DecidablePred IsWord := fun name =>
  inferInstanceAs (Decidable (name.toList.all Text.isWordChar = true))

/-- A text in which only boundaries stand before an opening and behind a closing brace. -/
def IsSpaced (text : List Char) : Prop :=
  text.IsChain fun c d => (d = '\x7b' → IsBoundary c) ∧ (c = '\x7d' → IsBoundary d)

instance : DecidablePred IsSpaced := fun text =>
  inferInstanceAs (Decidable (text.IsChain _))

theorem placeholder_ne_nil (name : String) : placeholder name ≠ [] := List.cons_ne_nil _ _

theorem getLast?_append_placeholder (before : List Char) (name : String) :
    (before ++ placeholder name).getLast? = some '\x7d' := by
  have hconcat : placeholder name = ('\x7b' :: name.toList) ++ ['\x7d'] := rfl
  rw [hconcat, ← List.append_assoc, List.getLast?_concat]

theorem IsWord.not_mem {name : String} (h : IsWord name) {c : Char}
    (hc : Text.isWordChar c = false) : c ∉ name.toList := by
  intro hmem
  have hword := List.all_eq_true.mp h c hmem
  rw [hc] at hword
  contradiction

/-- A boundary stands in no placeholder of a word. -/
theorem IsBoundary.not_mem_placeholder {c : Char} (hc : IsBoundary c) {name : String}
    (h : IsWord name) : c ∉ placeholder name := by
  obtain ⟨hword, hopen, hclose⟩ := hc
  simp [placeholder, hopen, hclose, h.not_mem hword]

/-- One placeholder holds another only if they are the same. -/
theorem eq_of_placeholder_occurs {name other : String} (hname : IsWord name)
    (h : placeholder other <:+: placeholder name) : other = name := by
  have hopen : '\x7b' ∉ name.toList := hname.not_mem rfl
  have hclose : '\x7d' ∉ name.toList := hname.not_mem rfl
  rw [placeholder, placeholder, List.infix_cons_iff] at h
  rcases h with hstarts | hoccurs
  · -- the closing brace ends both names
    obtain ⟨rest, hrest⟩ := (List.cons_prefix_cons.mp hstarts).2
    rw [List.append_assoc, List.singleton_append] at hrest
    have hlists := (List.append_cons_inj_of_notMem hclose List.not_mem_nil).mp hrest.symm
    exact (String.toList_injective hlists.1).symm
  · exact absurd (hoccurs.subset List.mem_cons_self) (by simp [hopen])

section Fill

variable {literal : String → List Char} {names : List String}

theorem fill_nil (literal : String → List Char) (names : List String) :
    fill literal names [] = [] := by
  induction names with
  | nil => rfl
  | cons name rest ih => rw [fill, List.foldl_cons, Text.replaceAll_nil]; exact ih

theorem fill_cons (name : String) (rest : List String) (text : List Char) :
    fill literal (name :: rest) text =
      fill literal rest (Text.replaceAll (placeholder name) (literal name) text) := rfl

theorem fill_append_names (names more : List String) (text : List Char) :
    fill literal (names ++ more) text = fill literal more (fill literal names text) :=
  List.foldl_append

/-- The texts before and behind a boundary are filled independently. -/
theorem fill_boundary (hnames : ∀ name ∈ names, IsWord name) {c : Char} (hc : IsBoundary c)
    (before after : List Char) :
    fill literal names (before ++ c :: after) =
      fill literal names before ++ c :: fill literal names after := by
  induction names generalizing before after with
  | nil => rfl
  | cons name rest ih =>
    obtain ⟨hname, hrest⟩ := List.forall_mem_cons.mp hnames
    rw [fill_cons, Text.replaceAll_append_cons (placeholder_ne_nil name)
      (hc.not_mem_placeholder hname), ih hrest]
    rfl

/-- A boundary is left as it is, and what follows is filled by itself. -/
theorem fill_boundary_cons (hnames : ∀ name ∈ names, IsWord name) {c : Char} (hc : IsBoundary c)
    (after : List Char) : fill literal names (c :: after) = c :: fill literal names after := by
  simpa [fill_nil] using @fill_boundary literal names hnames c hc [] after

/-- Behind a boundary a text is filled by itself. -/
theorem fill_append_of_getLast? (hnames : ∀ name ∈ names, IsWord name) {before : List Char}
    (h : ∀ c ∈ before.getLast?, IsBoundary c) (after : List Char) :
    fill literal names (before ++ after) =
      fill literal names before ++ fill literal names after := by
  rcases List.eq_nil_or_concat before with rfl | ⟨front, c, rfl⟩
  · rw [fill_nil, List.nil_append, List.nil_append]
  · have hc : IsBoundary c := h c (by simp)
    rw [List.concat_eq_append, List.append_assoc, List.singleton_append, fill_boundary hnames hc,
      fill_boundary hnames hc, fill_nil, List.append_assoc, List.singleton_append]

/-- Before a boundary a text is filled by itself. -/
theorem fill_append_of_head? (hnames : ∀ name ∈ names, IsWord name) {after : List Char}
    (h : ∀ c ∈ after.head?, IsBoundary c) (before : List Char) :
    fill literal names (before ++ after) =
      fill literal names before ++ fill literal names after := by
  cases after with
  | nil => rw [fill_nil, List.append_nil, List.append_nil]
  | cons c rest =>
    have hc : IsBoundary c := h c rfl
    rw [fill_boundary hnames hc, fill_boundary_cons hnames hc]

/-- A text without placeholders of the names stays as it is. -/
theorem fill_of_not_occurs {text : List Char}
    (h : ∀ name ∈ names, ¬placeholder name <:+: text) : fill literal names text = text := by
  induction names with
  | nil => rfl
  | cons name rest ih =>
    obtain ⟨hname, hrest⟩ := List.forall_mem_cons.mp h
    rw [fill_cons, Text.replaceAll_of_not_occurs hname, ih hrest]

/-- The names behind the first place of a name. -/
def laterNames (names : List String) (name : String) : List String :=
  names.drop (names.idxOf name + 1)

/-- A placeholder is filled when its name comes, and the literal is filled on. -/
theorem fill_placeholder (hnames : ∀ name ∈ names, IsWord name) {name : String}
    (hname : name ∈ names) :
    fill literal names (placeholder name) =
      fill literal (laterNames names name) (literal name) := by
  obtain ⟨earlier, later, rfl, hfirst⟩ := List.eq_append_cons_of_mem hname
  have hlater : laterNames (earlier ++ name :: later) name = later := by
    rw [laterNames, List.idxOf_append_of_notMem hfirst, List.idxOf_cons_self]
    simp
  have hearlier : fill literal earlier (placeholder name) = placeholder name := by
    refine fill_of_not_occurs fun other hother hoccurs => hfirst ?_
    exact eq_of_placeholder_occurs (hnames name hname) hoccurs ▸ hother
  have hfilled : Text.replaceAll (placeholder name) (literal name) (placeholder name) =
      literal name := by
    have hstarts := @Text.replaceAll_pattern_append _ (literal name) (placeholder_ne_nil name) []
    simpa using hstarts
  rw [hlater, fill_append_names, hearlier, fill_cons, hfilled]

/-- The text before a place, the place and the text behind it are filled independently. -/
theorem fill_place (hnames : ∀ name ∈ names, IsWord name) {before after : List Char}
    {name : String} (hspaced : IsSpaced (before ++ placeholder name ++ after))
    (hname : name ∈ names) :
    fill literal names (before ++ placeholder name ++ after) =
      fill literal names before ++ fill literal (laterNames names name) (literal name) ++
        fill literal names after := by
  obtain ⟨hfront, -, hbehind⟩ := List.isChain_append.mp hspaced
  obtain ⟨-, -, hbefore⟩ := List.isChain_append.mp hfront
  rw [fill_append_of_head? hnames, fill_append_of_getLast? hnames, fill_placeholder hnames hname]
  · intro c hc
    exact (hbefore c hc '\x7b' rfl).1 rfl
  · intro c hc
    exact (hbehind '\x7d' (getLast?_append_placeholder before name) c hc).2 rfl

end Fill

end Dataflow.Listing

namespace Dataflow

open Listing

/-- Whether the code of a node has a place for a name: a placeholder in its flat template, or an
argument of its call. -/
def Schema.mentions (schema : Schema) (name : String) : Bool :=
  match schema.template with
  | .flat template => Text.occursIn (placeholder name) template.toList
  | .call _ => (argumentNames schema).contains name

/-- A flat template keeps placeholders apart. -/
def Template.IsSpaced : Template → Prop
  | .flat text => Listing.IsSpaced text.toList
  | .call _ => True

instance : DecidablePred Template.IsSpaced
  | .flat text => inferInstanceAs (Decidable (Listing.IsSpaced text.toList))
  | .call _ => .isTrue trivial

/-- A template may be looked at as a list of characters. -/
theorem Template.isSpaced_flat {text : List Char} (h : Listing.IsSpaced text) :
    (Template.flat (String.ofList text)).IsSpaced := by
  rwa [Template.IsSpaced, String.toList_ofList]

/-- The places of a schema can be told apart: its ports and parameters are words, and its template
keeps placeholders apart. -/
def Schema.HasPlaces (schema : Schema) : Prop :=
  (∀ name ∈ schema.inputNames ++ schema.outputNames ++ schema.parameters.map Parameter.name,
    IsWord name) ∧ schema.template.IsSpaced

instance : DecidablePred Schema.HasPlaces := fun schema =>
  inferInstanceAs (Decidable ((∀ name ∈ _, IsWord name) ∧ schema.template.IsSpaced))

namespace Node

variable {node : Node} {layout : Layout} {entering : Dictionary String} {name : String}

/-- The names whose placeholders are filled after that of a name. A call fills none. -/
def namesAfter (node : Node) (name : String) : List String :=
  match node.schema.template with
  | .flat _ => laterNames node.placeholderNames name
  | .call _ => []

/-- A text that is put in the place of a name, with what is filled in it later. -/
def refilled (node : Node) (layout : Layout) (entering : Dictionary String) (name : String)
    (text : List Char) : List Char :=
  fill (node.literal layout entering) (node.namesAfter name) text

/-- The code of a node has places for a name, and a text in each of them. -/
def Shows (node : Node) (layout : Layout) (entering : Dictionary String) (name : String)
    (text : List Char) : Prop :=
  match node.schema.template with
  | .flat template =>
    placeholder name <:+: template.toList ∧
      ∀ before after, template.toList = before ++ placeholder name ++ after →
        let filled := fill (node.literal layout entering) node.placeholderNames
        nodeText node layout entering = Text.trimEnd (filled before ++ text ++ filled after)
  | .call function =>
    name ∈ argumentNames node.schema ∧
      ∀ before after, argumentNames node.schema = before ++ name :: after →
        let given := List.map (argument (node.literal layout entering))
        let arguments := given before ++ (name.toList ++ '=' :: text) :: given after
        let call := function.toList ++ '(' :: (", ".toList.intercalate arguments ++ [')'])
        ∃ rest, nodeText node layout entering = assignment (callTarget node).toList call ++ rest

/-- Where places can be told apart, all names that are filled are words. -/
theorem isWord_of_mem_placeholderNames (h : node.schema.HasPlaces) :
    ∀ name ∈ node.placeholderNames, IsWord name := by
  intro name hname
  refine h.1 name ?_
  simp only [placeholderNames, List.mem_append, List.mem_filter] at hname ⊢
  rcases hname with hparameter | ⟨hport, -⟩
  · exact .inr hparameter
  · exact .inl (List.mem_append.mp (mem_distinct_iff.mp hport))

theorem isWord_of_mem_namesAfter (h : node.schema.HasPlaces) :
    ∀ later ∈ node.namesAfter name, IsWord later := by
  intro later hlater
  unfold namesAfter at hlater
  split at hlater
  · exact isWord_of_mem_placeholderNames h later (List.mem_of_mem_drop hlater)
  · exact absurd hlater List.not_mem_nil

/-- A call gives each argument its literal. -/
theorem shows_literal {function : String} (hcall : node.schema.template = .call function)
    (hname : name ∈ argumentNames node.schema) :
    node.Shows layout entering name (node.literal layout entering name) := by
  simp only [Shows, hcall]
  refine ⟨hname, fun before after hsplit => ?_⟩
  simp only [nodeText, hcall, callCode, hsplit, List.map_append, List.map_cons, argument]
  cases hmore : handOver node ++ _ with
  | nil => exact ⟨[], by rw [List.intercalate_singleton, List.append_nil]⟩
  | cons line lines => exact ⟨_, by rw [List.intercalate_cons_cons, List.append_assoc]⟩

/-- In the place of a parameter stands its literal, with what is filled in it later. -/
theorem shows_refilled (h : node.schema.HasPlaces) (hname : name ∈ node.placeholderNames)
    (hmentions : node.schema.mentions name = true) :
    node.Shows layout entering name
      (node.refilled layout entering name (node.literal layout entering name)) := by
  unfold Schema.mentions at hmentions
  cases htemplate : node.schema.template with
  | flat template =>
    rw [htemplate] at hmentions
    simp only [Shows, refilled, namesAfter, htemplate]
    refine ⟨Text.occursIn_iff.mp hmentions, fun before after hsplit => ?_⟩
    have hspaced := h.2
    rw [htemplate, Template.IsSpaced, hsplit] at hspaced
    simp only [nodeText, htemplate, flatCode]
    rw [hsplit, fill_place (isWord_of_mem_placeholderNames h) hspaced hname]
  | call function =>
    rw [htemplate] at hmentions
    have hkept : node.refilled layout entering name (node.literal layout entering name) =
        node.literal layout entering name := by
      simp only [refilled, namesAfter, htemplate, fill, List.foldl_nil]
    rw [hkept]
    exact shows_literal htemplate (List.contains_iff_mem.mp hmentions)

end Node

end Dataflow
