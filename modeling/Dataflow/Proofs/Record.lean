import Dataflow.Proofs.Dictionary
import Dataflow.Store

/-!
# Records are read back

Reading what was written gives the same value: for lists, dictionaries and absent values if it does
so for their items, and then for every record of schemas, nodes and edges and for the outline that a
store keeps. Values inside a record stay as they are, however deep they are nested.
-/

namespace Dataflow

/-- What is written can be read, and gives the value that was written. -/
def ReadsBack {α : Type} (write : α → Json) (read : Json → Option α) : Prop :=
  ∀ value, read (write value) = some value

namespace ReadsBack

variable {α : Type} {write : α → Json} {read : Json → Option α}

/-- Items that are read back one by one are read back as a list. -/
theorem readAll (h : ReadsBack write read) (items : List α) :
    Json.readAll read (items.map write) = some items := by
  induction items with
  | nil => rfl
  | cons item rest ih => simp only [List.map_cons, Json.readAll, h item, ih]

/-- Lists are read back item by item. -/
theorem listOf (h : ReadsBack write read) :
    ReadsBack (fun items => .array (items.map write)) (Json.listOf read) :=
  fun items => h.readAll items

/-- Entries whose values are read back are read back. -/
theorem readEntries (h : ReadsBack write read) (entries : List (String × α)) :
    Json.readEntries read (entries.map fun entry => (entry.1, write entry.2)) = some entries := by
  induction entries with
  | nil => rfl
  | cons entry rest ih => simp only [List.map_cons, Json.readEntries, h entry.2, ih]

/-- Dictionaries are read back entry by entry, since their keys increase already. -/
theorem dictionaryOf (h : ReadsBack write read) :
    ReadsBack (Json.ofDictionary write) (Json.dictionaryOf read) := by
  intro dict
  change (Json.readEntries read _).map Dictionary.ofList = some dict
  rw [h.readEntries, Option.map_some, Dictionary.ofList_entries]

/-- A value that is present is read back where it might be absent, unless it is written as if it
were. -/
theorem nullable (h : ReadsBack write read) (value : α) (hpresent : write value ≠ .null) :
    Json.nullable read (write value) = some (some value) := by
  have hread := h value
  unfold Json.nullable
  split
  · next hnull => exact absurd hnull hpresent
  · rw [hread, Option.map_some]

end ReadsBack

/-! ## Fields by name -/

@[simp] theorem Json.record?_object (count : Nat) (fields : List (String × Json)) :
    (Json.object fields).record? count = some (.named fields) := rfl

@[simp] theorem Json.string?_string (text : String) : (Json.string text).string? = some text := rfl

@[simp] theorem Record.required_named {α : Type} (fields : List (String × Json)) (place : Nat)
    (name : String) (read : Json → Option α) :
    (named fields).required place name read = (fields.lookup name).bind read := rfl

@[simp] theorem Record.optional_named {α : Type} (fields : List (String × Json)) (place : Nat)
    (name : String) (fallback : α) (read : Json → Option α) :
    (named fields).optional place name fallback read =
      ((fields.lookup name).map read).getD (some fallback) := by
  have hget : (named fields).get? place name = fields.lookup name := rfl
  rw [optional, hget]
  cases fields.lookup name <;> rfl

/-! ## Texts, numbers and values -/

/-- A text is read back. -/
theorem Json.readsBack_string : ReadsBack Json.string Json.string? := fun _ => rfl

/-- Values are read as they are. -/
theorem Json.readsBack_dictionary :
    ReadsBack (Json.ofDictionary fun value => value) Json.dictionary? :=
  ReadsBack.dictionaryOf fun _ => rfl

/-- A number of 32 bits is read back. -/
theorem Json.readsBack_word32 : ReadsBack (fun n : UInt32 => .int n.toNat) Json.word32? := by
  intro n
  have hlt := n.toNat_lt
  simp only [word32?, intBetween?]
  rw [if_pos (by omega)]
  simp

/-- A number of 32 bits with a sign is read back. -/
theorem Json.readsBack_signedWord32 :
    ReadsBack (fun n : Int32 => .int n.toInt) Json.signedWord32? := by
  intro n
  have hle := n.le_toInt
  have hlt := n.toInt_lt
  simp only [signedWord32?, intBetween?]
  rw [if_pos (by omega)]
  simp

/-! ## Schemas -/

theorem Column.readsBack : ReadsBack Column.toJson Column.ofJson? := fun _ => rfl

/-- Columns on ports are read back, with the ports in their order. -/
theorem PortColumns.readsBack : ReadsBack PortColumns.toJson PortColumns.ofJson? :=
  Column.readsBack.listOf.dictionaryOf

theorem Port.readsBack : ReadsBack Port.toJson Port.ofJson? := fun _ => rfl

/-- The word of a role is read back. -/
theorem Role.readsBack : ReadsBack (fun role : Role => .string role.word) Role.ofJson? := by
  intro role
  cases role <;> rfl

/-- The word of a category is read back. -/
theorem Category.readsBack :
    ReadsBack (fun category : Category => .string category.word) Category.ofJson? := by
  intro category
  cases category <;> rfl

/-- A template is read back, as a call or as a text. -/
theorem Template.readsBack : ReadsBack Template.toJson Template.ofJson? := by
  intro template
  cases template <;> rfl

/-- The source of a fetch description is read back. -/
theorem FetchSource.readsBack : ReadsBack FetchSource.toJson FetchSource.ofJson? := by
  intro source
  cases source <;> rfl

/-- A fetch description is read back, also without an index. -/
theorem Fetch.readsBack : ReadsBack Fetch.toJson Fetch.ofJson? := by
  rintro ⟨source, indexParameter⟩
  have hsource := FetchSource.readsBack source
  cases indexParameter with
  | none => simp [toJson, ofJson?, Json.presentField, List.lookup_cons, hsource]
  | some parameter =>
    simp [toJson, ofJson?, Json.presentField, Json.nullable, List.lookup_cons, hsource]

/-- A parameter is read back, with whatever value it falls back to. -/
theorem Parameter.readsBack : ReadsBack Parameter.toJson Parameter.ofJson? := by
  rintro ⟨name, typeLabel, fallback, role, priority⟩
  have hrole := Role.readsBack role
  cases priority with
  | none => simp [toJson, ofJson?, Json.presentField, List.lookup_cons, hrole]
  | some priority =>
    have hpriority := Json.readsBack_signedWord32 priority
    simp [toJson, ofJson?, Json.presentField, Json.nullable, List.lookup_cons, hrole, hpriority]

/-- A schema is read back, also without a fetch description. -/
theorem Schema.readsBack : ReadsBack Schema.toJson Schema.ofJson? := by
  rintro ⟨id, category, label, inputs, outputs, parameters, template, fetch⟩
  have hcategory := Category.readsBack category
  have hinputs := Port.readsBack.listOf inputs
  have houtputs := Port.readsBack.listOf outputs
  have hparameters := Parameter.readsBack.listOf parameters
  have htemplate := Template.readsBack template
  cases fetch with
  | none =>
    simp [toJson, ofJson?, Json.presentField, List.lookup_cons, hcategory, hinputs, houtputs,
      hparameters, htemplate]
  | some fetch =>
    have hfetch := Fetch.readsBack.nullable fetch Json.noConfusion
    simp [toJson, ofJson?, Json.presentField, List.lookup_cons, hcategory, hinputs, houtputs,
      hparameters, htemplate, hfetch]

/-! ## Nodes, edges and outlines -/

/-- The status of a pass is read back, with the message of an error. -/
theorem PassStatus.readsBack : ReadsBack PassStatus.toJson PassStatus.ofJson? := by
  intro status
  cases status <;> rfl

/-- Metadata are read back. -/
theorem Metadata.readsBack : ReadsBack Metadata.toJson Metadata.ofJson? := by
  intro metadata
  have hinputs := PortColumns.readsBack metadata.inputColumns
  have houtputs := PortColumns.readsBack metadata.outputColumns
  have hstatus := PassStatus.readsBack metadata.status
  simp [toJson, ofJson?, readWith, List.lookup_cons, hinputs, houtputs, hstatus]

theorem Binding.readsBack : ReadsBack Binding.toJson Binding.ofJson? := fun _ => rfl

/-- A node is read back. -/
theorem Node.readsBack : ReadsBack Node.toJson Node.ofJson? := by
  intro node
  have hordinal := Json.readsBack_word32 node.ordinal
  have hschema := Schema.readsBack node.schema
  have hvalues := Json.readsBack_dictionary node.values
  have hbindings := Binding.readsBack.listOf node.bindings
  have hmetadata := Metadata.readsBack node.metadata
  simp [toJson, ofJson?, List.lookup_cons, hordinal, hschema, hvalues, hbindings, hmetadata]

theorem Edge.readsBack : ReadsBack Edge.toJson Edge.ofJson? := fun _ => rfl

/-- The outline of a document is read back. -/
theorem Outline.readsBack : ReadsBack Outline.toJson Outline.ofJson? := by
  intro outline
  have hnext := Json.readsBack_word32 outline.nextOrdinal
  have hids := Json.readsBack_string.listOf outline.nodeIds
  have hedges := Edge.readsBack.listOf outline.edges
  simp [toJson, ofJson?, List.lookup_cons, hnext, hids, hedges]

end Dataflow
