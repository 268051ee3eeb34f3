/-!
# Dictionaries

Finite maps from texts to values, held as a list of entries in strictly increasing order of their
keys. Keys are ordered by code point. The order is part of the type, so two dictionaries with the
same entries are equal, and the order in which entries came in is forgotten.
-/

namespace Dataflow

universe u v

/-- Put an entry into a list of entries in key order, in place of an entry with the same key. -/
def insertEntry {α : Type u} (key : String) (value : α) : List (String × α) → List (String × α)
  | [] => [(key, value)]
  | (k, v) :: rest =>
    if key < k then (key, value) :: (k, v) :: rest
    else if key = k then (key, value) :: rest
    else (k, v) :: insertEntry key value rest

/-- Keys strictly increase along a list of entries. -/
def KeysIncrease {α : Type u} (entries : List (String × α)) : Prop :=
  entries.Pairwise fun a b => a.1 < b.1

/-- After an insertion an entry has the new key or was there before. -/
theorem fst_mem_insertEntry {α : Type u} {key : String} {value : α}
    {entries : List (String × α)} {entry : String × α}
    (h : entry ∈ insertEntry key value entries) : entry.1 = key ∨ entry ∈ entries := by
  induction entries with
  | nil => simp_all [insertEntry]
  | cons first rest ih =>
    obtain ⟨k, v⟩ := first
    unfold insertEntry at h
    split at h
    · rcases List.mem_cons.mp h with rfl | h
      · exact .inl rfl
      · exact .inr h
    · split at h
      · rcases List.mem_cons.mp h with rfl | h
        · exact .inl rfl
        · exact .inr (List.mem_cons_of_mem _ h)
      · rcases List.mem_cons.mp h with rfl | h
        · exact .inr List.mem_cons_self
        · exact (ih h).imp_right (List.mem_cons_of_mem _)

/-- Of two different texts one is before the other. -/
theorem lt_of_not_lt_of_ne {a b : String} (h : ¬a < b) (hne : a ≠ b) : b < a := by
  apply Decidable.byContradiction
  intro hba
  exact hne (String.le_antisymm (String.not_lt.mp hba) (String.not_lt.mp h))

/-- Insertion keeps keys increasing. -/
theorem KeysIncrease.insertEntry {α : Type u} {key : String} {value : α}
    {entries : List (String × α)} (h : KeysIncrease entries) :
    KeysIncrease (insertEntry key value entries) := by
  induction entries with
  | nil => simp [Dataflow.insertEntry, KeysIncrease]
  | cons first rest ih =>
    obtain ⟨k, v⟩ := first
    obtain ⟨hfirst, hrest⟩ := List.pairwise_cons.mp h
    unfold Dataflow.insertEntry
    split
    · next hlt =>
      refine List.pairwise_cons.mpr ⟨fun entry hentry => ?_, h⟩
      rcases List.mem_cons.mp hentry with rfl | hmem
      · exact hlt
      · exact String.lt_trans hlt (hfirst entry hmem)
    · next hnot =>
      split
      · next heq =>
        subst heq
        exact List.pairwise_cons.mpr ⟨hfirst, hrest⟩
      · next hne =>
        refine List.pairwise_cons.mpr ⟨fun entry hentry => ?_, ih hrest⟩
        rcases fst_mem_insertEntry hentry with heq | hmem
        · rw [heq]
          exact lt_of_not_lt_of_ne hnot hne
        · exact hfirst entry hmem

/-- A finite map from texts to values. -/
structure Dictionary (α : Type u) where
  /-- The entries, in increasing order of their keys. -/
  entries : List (String × α)
  /-- No key occurs twice, and the order is that of the keys. -/
  increasing : KeysIncrease entries
  deriving DecidableEq

namespace Dictionary

variable {α : Type u} {β : Type v}

/-- The dictionary without entries. -/
def empty : Dictionary α := ⟨[], List.Pairwise.nil⟩

instance : Inhabited (Dictionary α) := ⟨empty⟩

instance : EmptyCollection (Dictionary α) := ⟨empty⟩

/-- The value under a key. -/
def get? (dict : Dictionary α) (key : String) : Option α := dict.entries.lookup key

/-- Whether a key has a value. -/
def contains (dict : Dictionary α) (key : String) : Bool := (dict.get? key).isSome

/-- Set the value under a key. -/
def insert (dict : Dictionary α) (key : String) (value : α) : Dictionary α :=
  ⟨insertEntry key value dict.entries, dict.increasing.insertEntry⟩

/-- Keep the entries whose key passes a test. -/
def filterKeys (dict : Dictionary α) (keep : String → Bool) : Dictionary α :=
  ⟨dict.entries.filter fun entry => keep entry.1, dict.increasing.filter _⟩

/-- Remove the value under a key. -/
def erase (dict : Dictionary α) (key : String) : Dictionary α :=
  dict.filterKeys fun other => other != key

/-- The dictionary of a list of entries, in which a later entry replaces an earlier one. -/
def ofList (entries : List (String × α)) : Dictionary α :=
  entries.foldl (fun dict entry => dict.insert entry.1 entry.2) empty

/-- All entries of both dictionaries, where the second decides about keys that are in both. -/
def union (first second : Dictionary α) : Dictionary α :=
  second.entries.foldl (fun dict entry => dict.insert entry.1 entry.2) first

/-- The keys in increasing order. -/
def keys (dict : Dictionary α) : List String := dict.entries.map Prod.fst

/-- The values in the order of their keys. -/
def values (dict : Dictionary α) : List α := dict.entries.map Prod.snd

/-- The number of entries. -/
def size (dict : Dictionary α) : Nat := dict.entries.length

/-- Whether there are no entries. -/
def isEmpty (dict : Dictionary α) : Bool := dict.entries.isEmpty

end Dictionary

end Dataflow
