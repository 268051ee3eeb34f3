import Dataflow.Proofs.Stacking

/-!
# Renaming and its inverse

All columns are renamed at once, each by the name that it came with. A renaming is refused unless
the names that it leads to are different, and then it leads different names to different ones. So no
new name of the mapping occurs twice, the mapping can be turned round, and the mapping from new
names to old ones takes every column back to the name that it had.
-/

namespace Dataflow

namespace Dictionary

/-- The mapping from values to keys. -/
def inverse (dict : Dictionary String) : Dictionary String := ofList (dict.entries.map Prod.swap)

/-- A mapping with different values can be turned round. -/
theorem get?_inverse_eq_some_iff {dict : Dictionary String} (hvalues : dict.values.Nodup)
    {old new : String} : dict.inverse.get? new = some old ↔ dict.get? old = some new := by
  have hkeys : ((dict.entries.map Prod.swap).map Prod.fst).Nodup := by
    rw [List.map_map]
    exact hvalues
  rw [inverse, get?_ofList_eq_some_iff hkeys, get?_eq_some_iff]
  constructor
  · intro hmem
    obtain ⟨entry, hentry, hswap⟩ := List.mem_map.mp hmem
    cases hswap
    exact hentry
  · intro hmem
    exact List.mem_map.mpr ⟨(old, new), hmem, rfl⟩

end Dictionary

namespace Transform

open Column (names)

variable {mapping : Dictionary String} {before : List String} {columns : List Column}

/-! ## Names under a mapping -/

/-- The name that a column gets: the one that the mapping has for it, or else its own. -/
def newName (mapping : Dictionary String) (name : String) : String :=
  (mapping.get? name).getD name

/-- A mapping renames nothing but the given names, and leads to different names. -/
structure Applies (mapping : Dictionary String) (before : List String) : Prop where
  /-- Every old name is there. -/
  known : ∀ old ∈ mapping.keys, old ∈ before
  /-- No name is there twice afterwards. -/
  nodup : (before.map (newName mapping)).Nodup

/-- A column gets the name that the mapping has for it. -/
theorem newName_of_get? {old new : String} (h : mapping.get? old = some new) :
    newName mapping old = new := by
  rw [newName, h, Option.getD_some]

/-- Where a mapping applies, different columns get different names. -/
theorem Applies.eq_of_newName_eq (h : Applies mapping before) {first second : String}
    (hfirst : first ∈ before) (hsecond : second ∈ before)
    (heq : newName mapping first = newName mapping second) : first = second :=
  List.inj_on_of_nodup_map h.nodup hfirst hsecond heq

/-- Where a mapping applies, it renames columns that are there. -/
theorem Applies.mem_of_get? (h : Applies mapping before) {old new : String}
    (hnew : mapping.get? old = some new) : old ∈ before :=
  h.known old (mapping.mem_keys_iff.mpr ⟨new, hnew⟩)

/-- No two names get the same new name. -/
theorem Applies.nodup_values (h : Applies mapping before) : mapping.values.Nodup := by
  have hvalues : mapping.values = mapping.keys.map (newName mapping) := by
    rw [Dictionary.values, Dictionary.keys, List.map_map]
    refine List.map_congr_left fun entry hentry => ?_
    exact (newName_of_get? (mapping.get?_eq_some_iff.mpr hentry)).symm
  rw [hvalues]
  refine mapping.nodup_keys.map_on fun first hfirst second hsecond heq => ?_
  exact h.eq_of_newName_eq (h.known first hfirst) (h.known second hsecond) heq

/-- The inverse of a mapping takes every name back. -/
theorem Applies.newName_inverse (h : Applies mapping before) {name : String}
    (hname : name ∈ before) : newName mapping.inverse (newName mapping name) = name := by
  cases hnew : mapping.get? name with
  | some new =>
    rw [newName_of_get? hnew]
    exact newName_of_get? ((Dictionary.get?_inverse_eq_some_iff h.nodup_values).mpr hnew)
  | none =>
    have hkept : newName mapping name = name := by rw [newName, hnew, Option.getD_none]
    rw [hkept]
    cases hold : mapping.inverse.get? name with
    | none => rw [newName, hold, Option.getD_none]
    | some old =>
      -- a name that is kept would be the new name of another column
      have hback := (Dictionary.get?_inverse_eq_some_iff h.nodup_values).mp hold
      have heq : old = name := by
        refine h.eq_of_newName_eq (h.mem_of_get? hback) hname ?_
        rw [hkept, newName_of_get? hback]
      rw [heq, hnew] at hback
      contradiction

/-- The inverse of a mapping applies to the new names. -/
theorem Applies.inverse (h : Applies mapping before) :
    Applies mapping.inverse (before.map (newName mapping)) where
  known new hnew := by
    obtain ⟨old, hold⟩ := mapping.inverse.mem_keys_iff.mp hnew
    have hback := (Dictionary.get?_inverse_eq_some_iff h.nodup_values).mp hold
    exact List.mem_map.mpr ⟨old, h.mem_of_get? hback, newName_of_get? hback⟩
  nodup := by
    have hback : (before.map (newName mapping)).map (newName mapping.inverse) = before := by
      rw [List.map_map]
      exact map_eq_self fun name hname => h.newName_inverse hname
    rw [hback]
    exact h.nodup.of_map _

/-! ## Columns under a mapping -/

@[simp] theorem names_map_renameColumn (mapping : Dictionary String) (columns : List Column) :
    names (columns.map (renameColumn mapping.entries)) =
      (names columns).map (newName mapping) := by
  rw [names, names, List.map_map, List.map_map]
  rfl

/-- Renaming keeps the types. -/
theorem map_typeLabel_renameColumn (mapping : Dictionary String) (columns : List Column) :
    (columns.map (renameColumn mapping.entries)).map Column.typeLabel =
      columns.map Column.typeLabel := by
  rw [List.map_map]
  rfl

/-- The inverse of a mapping that applies brings the columns back. -/
theorem Applies.map_renameColumn_inverse (h : Applies mapping (names columns)) :
    (columns.map (renameColumn mapping.entries)).map (renameColumn mapping.inverse.entries) =
      columns := by
  rw [List.map_map]
  refine map_eq_self fun column hcolumn => ?_
  have hname := h.newName_inverse (List.mem_map_of_mem hcolumn)
  exact congrArg (fun name => ({ column with name } : Column)) hname

/-! ## The checks -/

/-- Of two steps both succeed, or they do not succeed together. -/
theorem bind_eq_ok_iff {ε α β : Type} {first : Except ε α} {second : α → Except ε β} {result : β} :
    first >>= second = .ok result ↔ ∃ value, first = .ok value ∧ second value = .ok result := by
  cases first <;> simp [bind, Except.bind]

/-- Names are known if the columns have them all, or if there are no columns. -/
theorem ensureKnown_eq_ok_iff {columns : List Column} {given : List String} :
    ensureKnown columns given = .ok () ↔ columns = [] ∨ ∀ name ∈ given, name ∈ names columns := by
  unfold ensureKnown
  cases columns with
  | nil => simp
  | cons first rest =>
    rw [List.isEmpty_cons, if_neg Bool.false_ne_true]
    split
    · next name hfound =>
      have hmissing : name ∉ names (first :: rest) := by
        rw [← Column.named_iff]
        simpa using List.find?_some hfound
      constructor
      · intro h
        contradiction
      · rintro (h | hknown)
        · contradiction
        · exact absurd (hknown name (List.mem_of_find?_eq_some hfound)) hmissing
    · next hfound =>
      constructor
      · intro _
        refine .inr fun name hname => (Column.named_iff _ _).mp ?_
        simpa using List.find?_eq_none.mp hfound name hname
      · intro _
        rfl

/-- The names seen so far do not come again, and neither does any other. -/
theorem repeated?_eq_none_iff (seen : List String) (columns : List Column) :
    repeated? seen columns = none ↔
      (names columns).Nodup ∧ ∀ name ∈ names columns, name ∉ seen := by
  induction columns generalizing seen with
  | nil => simp [repeated?, names]
  | cons column rest ih =>
    have hnames : names (column :: rest) = column.name :: names rest := rfl
    rw [repeated?, hnames, List.nodup_cons, List.forall_mem_cons]
    by_cases hseen : column.name ∈ seen
    · simp [hseen]
    · rw [if_neg (by simpa using hseen), ih]
      simp only [List.mem_cons, not_or]
      constructor
      · rintro ⟨hnodup, hrest⟩
        refine ⟨⟨fun hmem => (hrest _ hmem).1 rfl, hnodup⟩, hseen, fun name hname => ?_⟩
        exact (hrest name hname).2
      · rintro ⟨⟨hfirst, hnodup⟩, -, hrest⟩
        refine ⟨hnodup, fun name hname => ⟨?_, hrest name hname⟩⟩
        rintro rfl
        exact hfirst hname

/-- A mapping from texts to texts is read as it is. -/
theorem readRenames_strings (entries : List (String × String)) :
    readRenames (entries.map fun entry => (entry.1, .string entry.2)) = .ok entries := by
  induction entries with
  | nil => rfl
  | cons entry rest ih => rw [List.map_cons, readRenames, ih]

/-- What a node gives that renames the columns on its input by a mapping. -/
def renameBy (inputs : PortColumns) (values : Values) (schema : Schema)
    (mapping : Dictionary String) (incoming : List Column) : Except TransformError PortColumns :=
  renameColumns (inputs.insert "frame" incoming)
    (values.insert "mapping" (Json.ofDictionary .string mapping)) schema

/-- Renaming succeeds where the mapping applies, and gives the renamed columns. -/
theorem renameBy_eq_ok_iff (inputs : PortColumns) (values : Values) (schema : Schema)
    (mapping : Dictionary String) {incoming : List Column} (hincoming : incoming ≠ [])
    {outputs : PortColumns} :
    renameBy inputs values schema mapping incoming = .ok outputs ↔
      Applies mapping (names incoming) ∧
        outputs = publish schema (incoming.map (renameColumn mapping.entries)) := by
  have hframe : PortColumns.on (inputs.insert "frame" incoming) "frame" = incoming := by
    rw [PortColumns.on, Dictionary.get?_insert_self, Option.getD_some]
  have hrenames : renamesIn (values.insert "mapping" (Json.ofDictionary .string mapping)) =
      .ok mapping.entries := by
    rw [renamesIn, Dictionary.get?_insert_self]
    exact readRenames_strings mapping.entries
  have hknown : ensureKnown incoming mapping.keys = .ok () ↔
      ∀ old ∈ mapping.keys, old ∈ names incoming := by
    rw [ensureKnown_eq_ok_iff, or_iff_right hincoming]
  have hnodup : repeated? [] (incoming.map (renameColumn mapping.entries)) = none ↔
      ((names incoming).map (newName mapping)).Nodup := by
    simp [repeated?_eq_none_iff]
  simp only [renameBy, renameColumns, hframe, hrenames, bind_eq_ok_iff, Except.ok.injEq,
    exists_eq_left']
  constructor
  · rintro ⟨⟨⟩, hchecked, hdone⟩
    split at hdone
    · contradiction
    · next hfirst =>
      exact ⟨⟨hknown.mp hchecked, hnodup.mp hfirst⟩, (Except.ok.inj hdone).symm⟩
  · rintro ⟨happlies, rfl⟩
    refine ⟨(), hknown.mpr happlies.known, ?_⟩
    rw [hnodup.mpr happlies.nodup]

/-- Renaming succeeds exactly if every old name comes in and no name is there twice when all columns
are renamed at once. Then every column stays in its place with its type, the new names are
different, and the inverse mapping gives back the columns that came in. -/
theorem renameBy_invertible (inputs : PortColumns) (values : Values) (schema : Schema)
    (mapping : Dictionary String) {incoming : List Column} (hincoming : incoming ≠ []) :
    ((∃ outputs, renameBy inputs values schema mapping incoming = .ok outputs) ↔
      (∀ old ∈ mapping.keys, old ∈ names incoming) ∧
        ((names incoming).map (newName mapping)).Nodup) ∧
    ∀ outputs, renameBy inputs values schema mapping incoming = .ok outputs →
      ∃ renamed, outputs = publish schema renamed ∧
        names renamed = (names incoming).map (newName mapping) ∧
        renamed.map Column.typeLabel = incoming.map Column.typeLabel ∧
        mapping.values.Nodup ∧
        renameBy inputs values schema mapping.inverse renamed = .ok (publish schema incoming) := by
  simp only [renameBy_eq_ok_iff inputs values schema mapping hincoming]
  constructor
  · constructor
    · rintro ⟨-, happlies, -⟩
      exact ⟨happlies.known, happlies.nodup⟩
    · rintro ⟨hknown, hnodup⟩
      exact ⟨_, ⟨hknown, hnodup⟩, rfl⟩
  · rintro outputs ⟨happlies, rfl⟩
    refine ⟨_, rfl, names_map_renameColumn mapping incoming,
      map_typeLabel_renameColumn mapping incoming, happlies.nodup_values, ?_⟩
    have hrenamed : incoming.map (renameColumn mapping.entries) ≠ [] :=
      mt List.map_eq_nil_iff.mp hincoming
    rw [renameBy_eq_ok_iff inputs values schema mapping.inverse hrenamed,
      names_map_renameColumn, happlies.map_renameColumn_inverse]
    exact ⟨happlies.inverse, rfl⟩

/-- Columns of which two change names, while a third moves up to the name of a fourth. -/
def sampleMoved : List Column × Dictionary String :=
  ([⟨"a", "int64"⟩, ⟨"b", "object"⟩, ⟨"c", "float64"⟩, ⟨"d", "bool"⟩, ⟨"e", "any"⟩],
    .ofList [("a", "b"), ("b", "a"), ("c", "d"), ("d", "f")])

/-- Two columns can change names with each other, and back. -/
theorem renameBy_invertible_sampleMoved :
    let (incoming, mapping) := sampleMoved
    incoming ≠ [] ∧ ∃ renamed,
      renameBy .empty .empty Catalog.renameColumns mapping incoming =
        .ok (publish Catalog.renameColumns renamed) ∧
      names renamed = ["b", "a", "d", "f", "e"] ∧
      renamed.map Column.typeLabel = ["int64", "object", "float64", "bool", "any"] ∧
      renameBy .empty .empty Catalog.renameColumns mapping.inverse renamed =
        .ok (publish Catalog.renameColumns incoming) := by
  have hincoming : sampleMoved.1 ≠ [] := by decide
  have hnames : (names sampleMoved.1).map (newName sampleMoved.2) = ["b", "a", "d", "f", "e"] := by
    decide
  obtain ⟨hiff, hafter⟩ :=
    renameBy_invertible .empty .empty Catalog.renameColumns sampleMoved.2 hincoming
  obtain ⟨outputs, hdone⟩ := hiff.mpr ⟨by decide, by rw [hnames]; decide⟩
  obtain ⟨renamed, rfl, hnew, htypes, -, hback⟩ := hafter outputs hdone
  exact ⟨hincoming, renamed, hdone, hnew.trans hnames, htypes, hback⟩

end Transform

end Dataflow
