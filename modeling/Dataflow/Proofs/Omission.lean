import Dataflow.Config
import Dataflow.Event
import Dataflow.Proofs.Record
import Mathlib.Data.List.Forall2
import Mathlib.Data.Option.Basic

/-!
# Records with fields left out

A field that has a default may be left out of a record where it holds that default. For every record
it is declared which fields these are, how their defaults are written and which fields hold records
themselves, so that a record may be shortened at any depth of what is declared. Reading a shortened
record gives the value that was written: a field is either there, with a value that reads the same,
or its default is what was written.
-/

namespace Dataflow

/-- The ways in which what is written may be shortened. To leave it whole is always one. -/
structure Trimming where
  /-- Something written may be shortened to this. -/
  allows : Json → Json → Prop
  /-- Nothing need be left out. -/
  whole : ∀ written, allows written written

/-- What is declared about a field of a record. -/
structure Field where
  /-- How the default of the field is written, if it has one. -/
  fallback : Option Json
  /-- How what the field holds may be shortened. -/
  trimming : Trimming

/-- Fields of an object are left out where they hold their defaults, and others are shortened. -/
inductive LeavesOut (fields : String → Field) :
    List (String × Json) → List (String × Json) → Prop where
  /-- There are no fields. -/
  | nil : LeavesOut fields [] []
  /-- The first field stays. -/
  | keep {name : String} {value shorter : Json} {written kept : List (String × Json)} :
    (fields name).trimming.allows value shorter → LeavesOut fields written kept →
    LeavesOut fields ((name, value) :: written) ((name, shorter) :: kept)
  /-- The first field holds its default and is left out. -/
  | drop {name : String} {value : Json} {written kept : List (String × Json)} :
    (fields name).fallback = some value → LeavesOut fields written kept →
    LeavesOut fields ((name, value) :: written) kept

/-- Nothing has to be left out. -/
theorem LeavesOut.refl (fields : String → Field) (written : List (String × Json)) :
    LeavesOut fields written written := by
  induction written with
  | nil => exact .nil
  | cons entry rest ih => exact .keep ((fields entry.1).trimming.whole entry.2) ih

namespace Trimming

/-- Nothing may be left out. -/
def untouched : Trimming := ⟨Eq, fun _ => rfl⟩

/-- Every item of a list may be shortened. -/
def listOf (trimming : Trimming) : Trimming where
  allows written trimmed := written = trimmed ∨ ∃ items shorter,
    written = .array items ∧ trimmed = .array shorter ∧
      List.Forall₂ trimming.allows items shorter
  whole _ := .inl rfl

/-- Every value of a dictionary may be shortened. -/
def dictionaryOf (trimming : Trimming) : Trimming where
  allows written trimmed := written = trimmed ∨ ∃ entries shorter,
    written = .object entries ∧ trimmed = .object shorter ∧
      List.Forall₂ (fun a b => a.1 = b.1 ∧ trimming.allows a.2 b.2) entries shorter
  whole _ := .inl rfl

/-- Fields of a record may be left out or shortened as it is declared. -/
def record (fields : String → Field) : Trimming where
  allows written trimmed := written = trimmed ∨ ∃ all kept,
    written = .object all ∧ trimmed = .object kept ∧ LeavesOut fields all kept
  whole _ := .inl rfl

end Trimming

namespace Field

/-- A field that must be there and holds no record. -/
def plain : Field := ⟨none, .untouched⟩

/-- A field that must be there and may be shortened. -/
def nested (trimming : Trimming) : Field := ⟨none, trimming⟩

/-- A field with a default that holds no record. -/
def defaulting (fallback : Json) : Field := ⟨some fallback, .untouched⟩

end Field

/-! ## What is declared -/

/-- The label of a type has a default. -/
def Column.trimming : Trimming := .record fun
  | "type" => .defaulting (.string anyType)
  | _ => .plain

/-- Columns on ports may be shortened. -/
def PortColumns.trimming : Trimming := .dictionaryOf (.listOf Column.trimming)

/-- The label of a type and whether the port is required have defaults. -/
def Port.trimming : Trimming := .record fun
  | "typeLabel" => .defaulting (.string anyType)
  | "required" => .defaulting (.bool false)
  | _ => .plain

/-- All but the name of a parameter has a default. -/
def Parameter.trimming : Trimming := .record fun
  | "typeLabel" => .defaulting (.string anyType)
  | "default" => .defaulting .null
  | "role" => .defaulting (.string Role.plain.word)
  | "priority" => .defaulting .null
  | _ => .plain

/-- The parameter of the index may be absent. -/
def Fetch.trimming : Trimming := .record fun
  | "indexParameter" => .defaulting .null
  | _ => .plain

/-- The label, the lists and the fetch description of a schema have defaults. -/
def Schema.trimming : Trimming := .record fun
  | "label" => .defaulting (.string "")
  | "inputs" => ⟨some (.array []), .listOf Port.trimming⟩
  | "outputs" => ⟨some (.array []), .listOf Port.trimming⟩
  | "parameters" => ⟨some (.array []), .listOf Parameter.trimming⟩
  | "fetch" => ⟨some .null, Fetch.trimming⟩
  | _ => .plain

/-- Everything in metadata has a default. -/
def Metadata.trimming : Trimming := .record fun
  | "inputColumns" => ⟨some (.object []), PortColumns.trimming⟩
  | "outputColumns" => ⟨some (.object []), PortColumns.trimming⟩
  | "status" => .defaulting PassStatus.pending.toJson
  | _ => .plain

/-- Values, variables and metadata of a node have defaults. Values are no records. -/
def Node.trimming : Trimming := .record fun
  | "schema" => .nested Schema.trimming
  | "values" => .defaulting (.object [])
  | "bindings" => .defaulting (.array [])
  | "metadata" => ⟨some Metadata.initial.toJson, Metadata.trimming⟩
  | _ => .plain

/-- The lists and the counter of a document have defaults. -/
def Document.trimming : Trimming := .record fun
  | "nodes" => ⟨some (.array []), .listOf Node.trimming⟩
  | "edges" => .defaulting (.array [])
  | "nextOrdinal" => .defaulting (.int firstOrdinal.toNat)
  | _ => .plain

/-- Metadata in an event may be shortened, and code may be made for no node. -/
def Event.trimming : Event → Trimming
  | .columnsUpdated _ _ _ => .record fun
    | "metadata" => .nested Metadata.trimming
    | _ => .plain
  | .codeGenerated _ _ _ => .record fun
    | "nodeId" => .defaulting .null
    | _ => .plain
  | _ => .untouched

/-- Every setting has a default. -/
def Config.trimming : Trimming := .record fun
  | "root_dir" => .defaulting .null
  | "header" => .defaulting (.array (Config.default.header.map .string))
  | "emit_preview" => .defaulting (.bool true)
  | "cycle_policy" => .defaulting (.string CyclePolicy.failFast.word)
  | "error_marker" => .defaulting (.string Config.default.errorMarker)
  | "library_url" => .defaulting .null
  | "request_timeout_secs" => .defaulting (.int Config.default.requestTimeout)
  | _ => .plain

/-! ## Reading what was shortened -/

/-- However something written is shortened, it is read as a value. -/
def Trimming.ReadAs {α : Type} (trimming : Trimming) (written : Json) (read : Json → Option α)
    (value : α) : Prop :=
  ∀ trimmed, trimming.allows written trimmed → read trimmed = some value

/-- What can be found of a field after some were left out. -/
inductive Field.Left (field : Field) : Option Json → Option Json → Prop where
  /-- The field was not written. -/
  | absent : Left field none none
  /-- The field is there. -/
  | kept {value shorter : Json} : field.trimming.allows value shorter →
    Left field (some value) (some shorter)
  /-- The field is missing and held its default. -/
  | dropped {value : Json} : field.fallback = some value → Left field (some value) none

/-- Where no name is written twice, each field is looked up on its own. -/
theorem LeavesOut.lookup {fields : String → Field} {written kept : List (String × Json)}
    (h : LeavesOut fields written kept) (hnames : (written.map Prod.fst).Nodup) (name : String) :
    (fields name).Left (written.lookup name) (kept.lookup name) := by
  -- behind a field that is left out no other may stand under its name
  have hmissing {fields : String → Field} {written kept : List (String × Json)}
      (h : LeavesOut fields written kept) (hname : name ∉ written.map Prod.fst) :
      kept.lookup name = none := by
    induction h with
    | nil => rfl
    | keep _ _ ih =>
      rw [List.map_cons, List.mem_cons, not_or] at hname
      rw [List.lookup_cons, beq_false_of_ne hname.1]
      exact ih hname.2
    | drop _ _ ih =>
      rw [List.map_cons, List.mem_cons, not_or] at hname
      exact ih hname.2
  induction h with
  | nil => exact .absent
  | @keep first value shorter written kept hshorter _ ih =>
    obtain ⟨-, hrest⟩ := List.nodup_cons.mp hnames
    rw [List.lookup_cons, List.lookup_cons]
    by_cases hname : name = first
    · subst hname
      simpa using Field.Left.kept hshorter
    · rw [beq_false_of_ne hname]
      exact ih hrest
  | @drop first value written kept hfallback hleaves ih =>
    obtain ⟨hfirst, hrest⟩ := List.nodup_cons.mp hnames
    rw [List.lookup_cons]
    by_cases hname : name = first
    · subst hname
      rw [hmissing hleaves hfirst]
      simpa using Field.Left.dropped hfallback
    · rw [beq_false_of_ne hname]
      exact ih hrest

namespace Trimming

variable {α : Type} {trimming : Trimming} {written : Json} {read : Json → Option α} {value : α}

/-- A shortened record is a record in which each field can be found as it was left. -/
theorem exists_of_record {fields : String → Field} {all : List (String × Json)} {trimmed : Json}
    (h : (record fields).allows (.object all) trimmed) (hnames : (all.map Prod.fst).Nodup) :
    ∃ kept, trimmed = .object kept ∧
      ∀ name, (fields name).Left (all.lookup name) (kept.lookup name) := by
  rcases h with rfl | ⟨_, kept, hall, rfl, hleaves⟩
  · exact ⟨all, rfl, (LeavesOut.refl fields all).lookup hnames⟩
  · obtain rfl := Json.object.inj hall
    exact ⟨kept, rfl, hleaves.lookup hnames⟩

/-- What may not be shortened is read as it is. -/
theorem readAs_untouched (h : read written = some value) :
    untouched.ReadAs written read value := by
  rintro _ rfl
  exact h

/-- What is not shortened is read as well. -/
theorem ReadAs.read_eq (h : trimming.ReadAs written read value) : read written = some value :=
  h written (trimming.whole written)

/-- A field that must be there is read. -/
theorem ReadAs.required (h : trimming.ReadAs written read value) {found : Option Json}
    (hleft : (Field.nested trimming).Left (some written) found) : found.bind read = some value := by
  cases hleft with
  | kept hshorter => exact h _ hshorter
  | dropped hfallback => cases hfallback

/-- A field that has a default is read, whether it is there or not. -/
theorem ReadAs.optional (h : trimming.ReadAs written read value) {fallback : α} {default : Json}
    (hfallback : read default = some fallback) {found : Option Json}
    (hleft : Field.Left ⟨some default, trimming⟩ (some written) found) :
    (found.map read).getD (some fallback) = some value := by
  cases hleft with
  | kept hshorter => exact h _ hshorter
  | dropped hheld =>
    -- what was written is the default, and both are read from it
    obtain rfl := Option.some.inj hheld
    exact hfallback.symm.trans h.read_eq

/-- Lists are read item by item. -/
theorem readAs_listOf {write : α → Json} {items : List α}
    (h : ∀ item ∈ items, trimming.ReadAs (write item) read item) :
    (listOf trimming).ReadAs (.array (items.map write)) (Json.listOf read) items := by
  have hall {shorter : List Json}
      (hshorter : List.Forall₂ trimming.allows (items.map write) shorter) :
      Json.readAll read shorter = some items := by
    induction items generalizing shorter with
    | nil =>
      cases hshorter
      rfl
    | cons item rest ih =>
      rw [List.map_cons] at hshorter
      cases hshorter with
      | cons hfirst hrest =>
        have hread := h item List.mem_cons_self _ hfirst
        have hreadRest := ih (fun item hitem => h item (List.mem_cons_of_mem _ hitem)) hrest
        simp only [Json.readAll, hread, hreadRest]
  rintro _ (rfl | ⟨_, shorter, hitems, rfl, hshorter⟩)
  · exact hall (List.forall₂_same.mpr fun written _ => trimming.whole written)
  · obtain rfl := Json.array.inj hitems
    exact hall hshorter

/-- Dictionaries are read entry by entry. -/
theorem readAs_dictionaryOf {write : α → Json}
    (h : ∀ value, trimming.ReadAs (write value) read value) (dict : Dictionary α) :
    (dictionaryOf trimming).ReadAs (Json.ofDictionary write dict) (Json.dictionaryOf read)
      dict := by
  have hall {entries : List (String × α)} {shorter : List (String × Json)}
      (hshorter : List.Forall₂ (fun a b => a.1 = b.1 ∧ trimming.allows a.2 b.2)
        (entries.map fun entry => (entry.1, write entry.2)) shorter) :
      Json.readEntries read shorter = some entries := by
    induction entries generalizing shorter with
    | nil =>
      cases hshorter
      rfl
    | cons entry rest ih =>
      rw [List.map_cons] at hshorter
      cases hshorter with
      | @cons _ first _ _ hfirst hrest =>
        obtain ⟨name, short⟩ := first
        obtain ⟨rfl, hshort⟩ := hfirst
        simp only [Json.readEntries, h entry.2 short hshort, ih hrest]
  have hread {shorter : List (String × Json)} (hentries : Json.readEntries read shorter =
      some dict.entries) : Json.dictionaryOf read (.object shorter) = some dict := by
    change (Json.readEntries read shorter).map Dictionary.ofList = some dict
    rw [hentries, Option.map_some, Dictionary.ofList_entries]
  rintro _ (rfl | ⟨_, shorter, hentries, rfl, hshorter⟩)
  · exact hread (hall (List.forall₂_same.mpr fun entry _ => ⟨rfl, trimming.whole entry.2⟩))
  · obtain rfl := Json.object.inj hentries
    exact hread (hall hshorter)

/-- A value that may be absent is read where it is present. -/
theorem ReadAs.nullable (h : trimming.ReadAs written read value) (hnull : read .null = none) :
    trimming.ReadAs written (Json.nullable read) (some value) := by
  intro trimmed htrimmed
  have hread := h trimmed htrimmed
  unfold Json.nullable
  split
  · rw [hnull] at hread
    cases hread
  · rw [hread, Option.map_some]

/-- A value that is written as null where it is absent. -/
theorem readAs_ofOption {write : α → Json} (h : ∀ value, read (write value) = some value)
    (hnull : read .null = none) (value : Option α) :
    untouched.ReadAs (Json.ofOption write value) (Json.nullable read) value := by
  cases value with
  | none => exact readAs_untouched rfl
  | some value => exact (readAs_untouched (h value)).nullable hnull

/-- A field that is left out where it is absent. -/
theorem readAs_present {write : α → Json} (h : ∀ value, trimming.ReadAs (write value) read value)
    (hnull : read .null = none) {name : String} {value : Option α} {found : Option Json}
    (hleft : Field.Left ⟨some .null, trimming⟩
      ((Json.presentField name write value).lookup name) found) :
    (found.map (Json.nullable read)).getD (some none) = some value := by
  cases value with
  | none =>
    cases hleft
    rfl
  | some value =>
    have hwritten : (Json.presentField name write (some value)).lookup name =
        some (write value) := by simp [Json.presentField]
    rw [hwritten] at hleft
    exact ((h value).nullable hnull).optional rfl hleft

theorem readAs_string (text : String) :
    untouched.ReadAs (.string text) Json.string? text :=
  readAs_untouched rfl

/-- A count of 64 bits is read. -/
theorem readAs_count {count : Nat} (h : count ≤ 18446744073709551615) :
    untouched.ReadAs (.int count) Json.count? count := by
  apply readAs_untouched
  simp only [Json.count?, Json.intBetween?]
  rw [if_pos (by omega)]
  simp

end Trimming

open Trimming

/-! ## Schemas -/

theorem Column.readAs (column : Column) :
    trimming.ReadAs column.toJson ofJson? column := by
  intro trimmed htrimmed
  obtain ⟨kept, rfl, hleft⟩ := exists_of_record htrimmed (by simp)
  have hname := (readAs_string column.name).required (hleft "name")
  have htype := (readAs_string column.typeLabel).optional rfl (hleft "type")
  simp [ofJson?, hname, htype]

theorem PortColumns.readAs (columns : PortColumns) :
    trimming.ReadAs columns.toJson ofJson? columns :=
  readAs_dictionaryOf (fun _ => readAs_listOf fun column _ => column.readAs) columns

theorem Port.readAs (port : Port) : trimming.ReadAs port.toJson ofJson? port := by
  intro trimmed htrimmed
  obtain ⟨kept, rfl, hleft⟩ := exists_of_record htrimmed (by simp)
  have hbool : untouched.ReadAs (.bool port.required) Json.bool? port.required :=
    readAs_untouched rfl
  have hname := (readAs_string port.name).required (hleft "name")
  have htype := (readAs_string port.typeLabel).optional rfl (hleft "typeLabel")
  have hrequired := hbool.optional rfl (hleft "required")
  simp [ofJson?, hname, htype, hrequired]

theorem Parameter.readAs (parameter : Parameter) :
    trimming.ReadAs parameter.toJson ofJson? parameter := by
  intro trimmed htrimmed
  obtain ⟨kept, rfl, hleft⟩ := exists_of_record htrimmed
    (by cases parameter.priority <;> simp [Json.presentField])
  have hvalue : untouched.ReadAs parameter.fallback some parameter.fallback := readAs_untouched rfl
  have hname := (readAs_string parameter.name).required (hleft "name")
  have htype := (readAs_string parameter.typeLabel).optional rfl (hleft "typeLabel")
  have hfallback := hvalue.optional rfl (hleft "default")
  have hrole := (readAs_untouched (Role.readsBack parameter.role)).optional rfl (hleft "role")
  have hpriority := readAs_present
    (fun priority => readAs_untouched (Json.readsBack_signedWord32 priority)) rfl
    (hleft "priority")
  simp [ofJson?, hname, htype, hfallback, hrole, hpriority]

theorem Fetch.readAs (fetch : Fetch) : trimming.ReadAs fetch.toJson ofJson? fetch := by
  intro trimmed htrimmed
  obtain ⟨kept, rfl, hleft⟩ := exists_of_record htrimmed
    (by cases fetch.indexParameter <;> simp [Json.presentField])
  have hsource := (readAs_untouched (FetchSource.readsBack fetch.source)).required (hleft "source")
  have hindex := readAs_present readAs_string rfl (hleft "indexParameter")
  simp [ofJson?, hsource, hindex]

theorem Schema.readAs (schema : Schema) : trimming.ReadAs schema.toJson ofJson? schema := by
  intro trimmed htrimmed
  obtain ⟨kept, rfl, hleft⟩ := exists_of_record htrimmed
    (by cases schema.fetch <;> simp [Json.presentField])
  have hports (ports : List Port) := readAs_listOf fun port (_ : port ∈ ports) => port.readAs
  have hid := (readAs_string schema.id).required (hleft "id")
  have hcategory := (readAs_untouched (Category.readsBack schema.category)).required
    (hleft "category")
  have hlabel := (readAs_string schema.label).optional rfl (hleft "label")
  have hinputs := (hports schema.inputs).optional rfl (hleft "inputs")
  have houtputs := (hports schema.outputs).optional rfl (hleft "outputs")
  have hparameters := (readAs_listOf fun parameter (_ : parameter ∈ schema.parameters) =>
    parameter.readAs).optional rfl (hleft "parameters")
  have htemplate := (readAs_untouched (Template.readsBack schema.template)).required
    (hleft "template")
  have hfetch := readAs_present Fetch.readAs rfl (hleft "fetch")
  simp [ofJson?, hid, hcategory, hlabel, hinputs, houtputs, hparameters, htemplate, hfetch]

/-! ## Nodes and documents -/

/-- Metadata are read with any way to read the status. -/
theorem Metadata.readAs {readStatus : Json → Option PassStatus}
    (hread : ReadsBack PassStatus.toJson readStatus) (metadata : Metadata) :
    trimming.ReadAs metadata.toJson (readWith readStatus) metadata := by
  intro trimmed htrimmed
  obtain ⟨kept, rfl, hleft⟩ := exists_of_record htrimmed (by simp)
  have hinputs := metadata.inputColumns.readAs.optional (PortColumns.readsBack .empty)
    (hleft "inputColumns")
  have houtputs := metadata.outputColumns.readAs.optional (PortColumns.readsBack .empty)
    (hleft "outputColumns")
  have hstatus := (readAs_untouched (hread metadata.status)).optional (hread .pending)
    (hleft "status")
  simp [readWith, hinputs, houtputs, hstatus]

theorem Node.readAs (node : Node) : trimming.ReadAs node.toJson ofJson? node := by
  intro trimmed htrimmed
  obtain ⟨kept, rfl, hleft⟩ := exists_of_record htrimmed (by simp)
  have hid := (readAs_string node.id).required (hleft "id")
  have hordinal := (readAs_untouched (Json.readsBack_word32 node.ordinal)).required
    (hleft "ordinal")
  have hschema := node.schema.readAs.required (hleft "schema")
  have hvalues := (readAs_untouched (Json.readsBack_dictionary node.values)).optional
    (Json.readsBack_dictionary .empty) (hleft "values")
  have hbindings := (readAs_untouched (Binding.readsBack.listOf node.bindings)).optional rfl
    (hleft "bindings")
  have hread : Metadata.trimming.ReadAs node.metadata.toJson Metadata.ofJson? node.metadata :=
    Metadata.readAs PassStatus.readsBack node.metadata
  have hmetadata := hread.optional (Metadata.readsBack .initial) (hleft "metadata")
  simp [ofJson?, hid, hordinal, hschema, hvalues, hbindings, hmetadata]

/-- A document is read however it is shortened. -/
theorem Document.readAs (document : Document) :
    trimming.ReadAs document.toJson ofJson? document := by
  intro trimmed htrimmed
  obtain ⟨kept, rfl, hleft⟩ := exists_of_record htrimmed (by simp)
  have hid := (readAs_string document.id).required (hleft "id")
  have hname := (readAs_string document.name).required (hleft "name")
  have hnodes := (readAs_listOf fun node (_ : node ∈ document.nodes) =>
    node.readAs).optional rfl (hleft "nodes")
  have hedges := (readAs_untouched (Edge.readsBack.listOf document.edges)).optional rfl
    (hleft "edges")
  have hnext := (readAs_untouched (Json.readsBack_word32 document.nextOrdinal)).optional
    (Json.readsBack_word32 firstOrdinal) (hleft "nextOrdinal")
  simp [ofJson?, hid, hname, hnodes, hedges, hnext]

/-! ## Events and settings -/

/-- The word of a status is read back. -/
theorem Status.readsBack : ReadsBack (fun status : Status => .string status.word) ofJson? := by
  rintro (_ | _ | outcome)
  · rfl
  · rfl
  · cases outcome <;> rfl

theorem PassStatus.readsBack_ofPlaced? : ReadsBack PassStatus.toJson PassStatus.ofPlaced? := by
  intro status
  cases status <;> rfl

/-- The word of a policy is read back. -/
theorem CyclePolicy.readsBack :
    ReadsBack (fun policy : CyclePolicy => .string policy.word) ofJson? := by
  intro policy
  cases policy <;> rfl

/-- The counts of an event have 64 bits. -/
def Event.Fits : Event → Prop
  | .passCompleted _ updated errors =>
    updated ≤ 18446744073709551615 ∧ errors ≤ 18446744073709551615
  | _ => True

/-- An event whose counts have 64 bits is read however it is shortened. -/
theorem Event.readAs (event : Event) (h : event.Fits) :
    event.trimming.ReadAs event.toJson ofJson? event := by
  cases event with
  | statusChanged document node status =>
    apply readAs_untouched
    have hstatus := Status.readsBack status
    simp [toJson, ofJson?, Json.variant?, Json.variantBy?, ofRecord?, List.lookup_cons, hstatus,
      Record.fits]
  | columnsUpdated document node metadata =>
    intro trimmed htrimmed
    obtain ⟨kept, rfl, hleft⟩ := exists_of_record htrimmed (by simp)
    have htype := (readAs_string "columnsUpdated").required (hleft "type")
    have hdocument := (readAs_string document).required (hleft "documentId")
    have hnode := (readAs_string node).required (hleft "nodeId")
    have hmetadata := (Metadata.readAs PassStatus.readsBack_ofPlaced? metadata).required
      (hleft "metadata")
    simp [ofJson?, Json.variant?, Json.variantBy?, ofRecord?, htype, hdocument, hnode, hmetadata,
      Record.fits]
  | passSkipped document reason => exact readAs_untouched rfl
  | passCompleted document updated errors =>
    apply readAs_untouched
    have hupdated := (readAs_count h.1).read_eq
    have herrors := (readAs_count h.2).read_eq
    simp [toJson, ofJson?, Json.variant?, Json.variantBy?, ofRecord?, List.lookup_cons, hupdated,
      herrors, Record.fits]
  | cycleFound document unsorted =>
    apply readAs_untouched
    have hunsorted := Json.readsBack_string.listOf unsorted
    simp [toJson, ofJson?, Json.variant?, Json.variantBy?, ofRecord?, List.lookup_cons, hunsorted,
      Record.fits]
  | codeGenerated document node code =>
    intro trimmed htrimmed
    obtain ⟨kept, rfl, hleft⟩ := exists_of_record htrimmed (by simp)
    have htype := (readAs_string "codeGenerated").required (hleft "type")
    have hdocument := (readAs_string document).required (hleft "documentId")
    have hnode := (readAs_ofOption Json.readsBack_string rfl node).optional rfl (hleft "nodeId")
    have hcode := (readAs_string code).required (hleft "code")
    simp [ofJson?, Json.variant?, Json.variantBy?, ofRecord?, htype, hdocument, hnode, hcode,
      Record.fits]

/-- Settings with a timeout of 64 bits are read however they are shortened. -/
theorem Config.readAs (config : Config) (h : config.requestTimeout ≤ 18446744073709551615) :
    trimming.ReadAs config.toJson ofJson? config := by
  intro trimmed htrimmed
  obtain ⟨kept, rfl, hleft⟩ := exists_of_record htrimmed (by simp)
  have hbool : untouched.ReadAs (.bool config.emitPreview) Json.bool? config.emitPreview :=
    readAs_untouched rfl
  have hroot := (readAs_ofOption Json.readsBack_string rfl config.rootDir).optional rfl
    (hleft "root_dir")
  have hheader := (readAs_untouched (Json.readsBack_string.listOf config.header)).optional
    (Json.readsBack_string.listOf default.header) (hleft "header")
  have hpreview := hbool.optional rfl (hleft "emit_preview")
  have hpolicy := (readAs_untouched (CyclePolicy.readsBack config.cyclePolicy)).optional rfl
    (hleft "cycle_policy")
  have hmarker := (readAs_string config.errorMarker).optional rfl (hleft "error_marker")
  have hurl := (readAs_ofOption Json.readsBack_string rfl config.libraryUrl).optional rfl
    (hleft "library_url")
  have hdefault : Json.count? (.int default.requestTimeout) = some default.requestTimeout := rfl
  have htimeout := (readAs_count h).optional hdefault (hleft "request_timeout_secs")
  simp [ofJson?, hroot, hheader, hpreview, hpolicy, hmarker, hurl, htimeout]

/-- Documents, schemas, nodes, events and settings are read back from their records, and also from
every shortened record: one in which, at any depth of what is declared, any fields that hold their
defaults are left out. Counts must have 64 bits. -/
theorem readBack_trimmed :
    (∀ document : Document, Document.ofJson? document.toJson = some document ∧
      ∀ trimmed, Document.trimming.allows document.toJson trimmed →
        Document.ofJson? trimmed = some document) ∧
    (∀ schema : Schema, Schema.ofJson? schema.toJson = some schema ∧
      ∀ trimmed, Schema.trimming.allows schema.toJson trimmed →
        Schema.ofJson? trimmed = some schema) ∧
    (∀ node : Node, Node.ofJson? node.toJson = some node ∧
      ∀ trimmed, Node.trimming.allows node.toJson trimmed →
        Node.ofJson? trimmed = some node) ∧
    (∀ event : Event, event.Fits → Event.ofJson? event.toJson = some event ∧
      ∀ trimmed, event.trimming.allows event.toJson trimmed →
        Event.ofJson? trimmed = some event) ∧
    (∀ config : Config, config.requestTimeout ≤ 18446744073709551615 →
      Config.ofJson? config.toJson = some config ∧
      ∀ trimmed, Config.trimming.allows config.toJson trimmed →
        Config.ofJson? trimmed = some config) := by
  refine ⟨fun document => ?_, fun schema => ?_, fun node => ?_, fun event h => ?_,
    fun config h => ?_⟩
  · exact ⟨document.readAs.read_eq, document.readAs⟩
  · exact ⟨schema.readAs.read_eq, schema.readAs⟩
  · exact ⟨node.readAs.read_eq, node.readAs⟩
  · exact ⟨(event.readAs h).read_eq, event.readAs h⟩
  · exact ⟨(config.readAs h).read_eq, config.readAs h⟩

/-- A node that has got columns of an unknown type on the only port of its schema. -/
def sampleArrived : Node where
  id := "a"
  ordinal := 1
  schema := { Schema.unassigned with label := "", inputs := [Port.optional "in" anyType] }
  values := .empty
  bindings := []
  metadata := ⟨.ofList [("in", [⟨"x", anyType⟩])], .empty, .ready⟩

/-- Its metadata without what they have by default. -/
def sampleColumns : Json :=
  .object [("inputColumns", .object [("in", .array [.object [("name", .string "x")]])]),
    ("status", PassStatus.ready.toJson)]

/-- The record of a document with this node, without all that it has by default. -/
def sampleShort : Json :=
  .object [("id", .string "p"), ("name", .string "Pipeline"), ("nodes", .array [.object
    [("id", .string "a"), ("ordinal", .int 1),
      ("schema", .object [("id", .string Schema.unassignedId), ("category", .string "free"),
        ("inputs", .array [.object [("name", .string "in")]]),
        ("template", Schema.unassigned.template.toJson)]),
      ("metadata", sampleColumns)]])]

/-- The shortened record of the sample is read as the whole one. -/
theorem readBack_trimmed_sampleShort :
    let document := { Document.empty "p" "Pipeline" with nodes := [sampleArrived] }
    let event : Event := .columnsUpdated "p" "a" sampleArrived.metadata
    let shortEvent : Json := .object [("type", .string "columnsUpdated"),
      ("documentId", .string "p"), ("nodeId", .string "a"), ("metadata", sampleColumns)]
    (Document.trimming.allows document.toJson sampleShort ∧
        Document.ofJson? sampleShort = some document) ∧
      (event.trimming.allows event.toJson shortEvent ∧
        Event.ofJson? shortEvent = some event) ∧
      Config.trimming.allows Config.default.toJson (.object []) ∧
        Config.ofJson? (.object []) = some Config.default := by
  intro document event shortEvent
  have hcolumn : Column.trimming.allows (Column.toJson ⟨"x", anyType⟩)
      (.object [("name", .string "x")]) :=
    .inr ⟨_, _, rfl, rfl, .keep rfl (.drop rfl .nil)⟩
  have hcolumns : PortColumns.trimming.allows sampleArrived.metadata.inputColumns.toJson
      (.object [("in", .array [.object [("name", .string "x")]])]) :=
    .inr ⟨_, _, rfl, rfl, .cons ⟨rfl, .inr ⟨_, _, rfl, rfl, .cons hcolumn .nil⟩⟩ .nil⟩
  have hmetadata : Metadata.trimming.allows sampleArrived.metadata.toJson sampleColumns :=
    .inr ⟨_, _, rfl, rfl, .keep hcolumns (.drop rfl (.keep rfl .nil))⟩
  have hport : Port.trimming.allows (Port.optional "in" anyType).toJson
      (.object [("name", .string "in")]) :=
    .inr ⟨_, _, rfl, rfl, .keep rfl (.drop rfl (.drop rfl .nil))⟩
  have hschema : Schema.trimming.allows sampleArrived.schema.toJson _ :=
    .inr ⟨_, _, rfl, rfl, .keep rfl (.keep rfl (.drop rfl (.keep
      (.inr ⟨_, _, rfl, rfl, .cons hport .nil⟩) (.drop rfl (.drop rfl (.keep rfl .nil))))))⟩
  have hnode : Node.trimming.allows sampleArrived.toJson _ :=
    .inr ⟨_, _, rfl, rfl, .keep rfl (.keep rfl (.keep hschema (.drop rfl (.drop rfl
      (.keep hmetadata .nil)))))⟩
  have hdocument : Document.trimming.allows document.toJson sampleShort :=
    .inr ⟨_, _, rfl, rfl, .keep rfl (.keep rfl (.keep
      (.inr ⟨_, _, rfl, rfl, .cons hnode .nil⟩) (.drop rfl (.drop rfl .nil))))⟩
  have hevent : event.trimming.allows event.toJson shortEvent :=
    .inr ⟨_, _, rfl, rfl, .keep rfl (.keep rfl (.keep rfl (.keep hmetadata .nil)))⟩
  have hconfig : Config.trimming.allows Config.default.toJson (.object []) :=
    .inr ⟨_, _, rfl, rfl, .drop rfl (.drop rfl (.drop rfl (.drop rfl (.drop rfl (.drop rfl
      (.drop rfl .nil))))))⟩
  obtain ⟨hdocuments, -, -, hevents, hconfigs⟩ := readBack_trimmed
  exact ⟨⟨hdocument, (hdocuments document).2 _ hdocument⟩,
    ⟨hevent, (hevents event trivial).2 _ hevent⟩,
    hconfig, (hconfigs _ (by decide)).2 _ hconfig⟩

end Dataflow
