import Dataflow.Dictionary
import Mathlib.Data.List.Induction
import Mathlib.Data.List.Nodup

/-!
# Lookup in dictionaries

What is found under a key after each operation. Setting a value changes what is found under its key
and nothing else, and of a list of entries the last one with a key counts.
-/

namespace Dataflow

universe u

variable {α : Type u}

/-- An insertion changes what is found for its key, and for no other. -/
theorem lookup_insertEntry (key : String) (value : α) (entries : List (String × α))
    (other : String) :
    (insertEntry key value entries).lookup other =
      if other = key then some value else entries.lookup other := by
  induction entries with
  | nil =>
    by_cases hkey : other = key
    · simp [insertEntry, hkey]
    · have hmiss : (other == key) = false := by simpa using hkey
      rw [insertEntry, List.lookup_cons, hmiss, if_neg hkey]
  | cons first rest ih =>
    obtain ⟨k, v⟩ := first
    unfold insertEntry
    by_cases hkey : other = key
    · subst hkey
      simp only [ite_true] at ih ⊢
      split
      · exact List.lookup_cons_self
      · split
        · exact List.lookup_cons_self
        · next hne =>
          have hmiss : (other == k) = false := by simpa using hne
          rw [List.lookup_cons, hmiss]
          exact ih
    · simp only [hkey, ite_false] at ih ⊢
      have hmiss : (other == key) = false := by simpa using hkey
      split
      · rw [List.lookup_cons, hmiss]
      · split
        · next heq => rw [List.lookup_cons, hmiss, List.lookup_cons, ← heq, hmiss]
        · rw [List.lookup_cons, List.lookup_cons, ih]

/-- An entry is the one that was put in, or was there before. -/
theorem mem_insertEntry {key : String} {value : α} {entries : List (String × α)}
    {entry : String × α} (h : entry ∈ insertEntry key value entries) :
    entry = (key, value) ∨ entry ∈ entries := by
  induction entries with
  | nil => exact .inl (List.mem_singleton.mp h)
  | cons first rest ih =>
    obtain ⟨k, v⟩ := first
    unfold insertEntry at h
    split at h
    · exact List.mem_cons.mp h
    · split at h
      · exact (List.mem_cons.mp h).imp_right (List.mem_cons_of_mem _)
      · rcases List.mem_cons.mp h with rfl | hrest
        · exact .inr List.mem_cons_self
        · exact (ih hrest).imp_right (List.mem_cons_of_mem _)

/-- An entry whose key comes after all others goes to the end. -/
theorem insertEntry_eq_concat {key : String} {value : α} {entries : List (String × α)}
    (h : ∀ entry ∈ entries, entry.1 < key) :
    insertEntry key value entries = entries ++ [(key, value)] := by
  induction entries with
  | nil => rfl
  | cons first rest ih =>
    obtain ⟨k, v⟩ := first
    have hlt : k < key := h (k, v) List.mem_cons_self
    have hnot : ¬key < k := fun hgt => String.lt_irrefl k (String.lt_trans hlt hgt)
    have hne : key ≠ k := fun heq => String.lt_irrefl k (heq ▸ hlt)
    have hrest := ih fun entry hentry => h entry (List.mem_cons_of_mem _ hentry)
    rw [insertEntry, if_neg hnot, if_neg hne, hrest, List.cons_append]

/-- Only what passes the test is still found. -/
theorem lookup_filter (entries : List (String × α)) (keep : String → Bool) (key : String) :
    (entries.filter fun entry => keep entry.1).lookup key =
      if keep key then entries.lookup key else none := by
  induction entries with
  | nil => simp
  | cons first rest ih =>
    obtain ⟨k, v⟩ := first
    rw [List.filter_cons]
    by_cases hk : key = k
    · subst hk
      by_cases hkeep : keep key = true
      · simp [hkeep]
      · simp only [hkeep, Bool.false_eq_true, ite_false] at ih ⊢
        exact ih
    · have hmiss : (key == k) = false := by simpa using hk
      split
      · rw [List.lookup_cons, List.lookup_cons, hmiss, ih]
      · rw [List.lookup_cons, hmiss, ih]

namespace Dictionary

@[simp] theorem get?_empty (key : String) : (empty : Dictionary α).get? key = none := rfl

theorem mem_entries_of_get? {dict : Dictionary α} {key : String} {value : α}
    (h : dict.get? key = some value) : (key, value) ∈ dict.entries := by
  obtain ⟨before, after, hentries, -⟩ := List.lookup_eq_some_iff.mp h
  rw [hentries]
  exact List.mem_append_right _ List.mem_cons_self

/-- A value is found where it was set, and elsewhere what was there. -/
theorem get?_insert (dict : Dictionary α) (key : String) (value : α) (other : String) :
    (dict.insert key value).get? other = if other = key then some value else dict.get? other :=
  lookup_insertEntry key value dict.entries other

@[simp] theorem get?_insert_self (dict : Dictionary α) (key : String) (value : α) :
    (dict.insert key value).get? key = some value := by
  rw [get?_insert, if_pos rfl]

theorem get?_insert_of_ne (dict : Dictionary α) {key other : String} (value : α)
    (h : other ≠ key) : (dict.insert key value).get? other = dict.get? other := by
  rw [get?_insert, if_neg h]

/-- What passes the test is found as before, and nothing else. -/
theorem get?_filterKeys (dict : Dictionary α) (keep : String → Bool) (key : String) :
    (dict.filterKeys keep).get? key = if keep key then dict.get? key else none :=
  lookup_filter dict.entries keep key

/-- Erasing a key takes what is found for it, and for no other. -/
theorem get?_erase (dict : Dictionary α) (key other : String) :
    (dict.erase key).get? other = if other = key then none else dict.get? other := by
  rw [erase, get?_filterKeys]
  by_cases hkey : other = key <;> simp [hkey]

theorem get?_erase_of_ne (dict : Dictionary α) {key other : String} (h : other ≠ key) :
    (dict.erase key).get? other = dict.get? other := by
  have hkept := lookup_filter dict.entries (fun k => k != key) other
  rw [if_pos (by simpa using h)] at hkept
  exact hkept

/-- The last entry of a list is inserted last. -/
theorem ofList_concat (entries : List (String × α)) (last : String × α) :
    ofList (entries ++ [last]) = (ofList entries).insert last.1 last.2 := by
  rw [ofList, List.foldl_append]
  rfl

/-- Keys that increase already stay in their places. -/
theorem entries_ofList {entries : List (String × α)} (h : KeysIncrease entries) :
    (ofList entries).entries = entries := by
  induction entries using List.reverseRecOn with
  | nil => rfl
  | append_singleton front last ih =>
    obtain ⟨hfront, -, hlast⟩ := List.pairwise_append.mp h
    rw [ofList_concat]
    change insertEntry last.1 last.2 (ofList front).entries = front ++ [last]
    rw [ih hfront]
    exact insertEntry_eq_concat fun entry hentry => hlast entry hentry last List.mem_cons_self

/-- The entries of a dictionary make that dictionary again. -/
theorem ofList_entries (dict : Dictionary α) : ofList dict.entries = dict := by
  have hentries := entries_ofList dict.increasing
  cases hmade : ofList dict.entries with
  | mk entries increasing =>
    rw [hmade] at hentries
    cases dict
    cases hentries
    rfl

/-- Of several entries with a key the last one counts. -/
theorem get?_ofList (entries : List (String × α)) (key : String) :
    (ofList entries).get? key =
      (entries.filter fun entry => entry.1 == key).getLast?.map Prod.snd := by
  induction entries using List.reverseRecOn with
  | nil => rfl
  | append_singleton entries last ih =>
    rw [ofList_concat, List.filter_append]
    by_cases hkey : last.1 = key
    · subst hkey
      simp
    · rw [get?_insert_of_ne _ _ (Ne.symm hkey), ih]
      simp [hkey]

/-- If all entries with a key agree, that is what is found. -/
theorem get?_ofList_eq_some {entries : List (String × α)} {key : String} {value : α}
    (hmem : (key, value) ∈ entries) (hall : ∀ entry ∈ entries, entry.1 = key → entry.2 = value) :
    (ofList entries).get? key = some value := by
  have hkept : (key, value) ∈ entries.filter fun entry => entry.1 == key :=
    List.mem_filter.mpr ⟨hmem, by simp⟩
  obtain ⟨last, hlast⟩ := Option.isSome_iff_exists.mp
    (List.getLast?_isSome.mpr (List.ne_nil_of_mem hkept))
  obtain ⟨hin, hkey⟩ := List.mem_filter.mp (List.mem_of_getLast? hlast)
  rw [get?_ofList, hlast, Option.map_some, hall last hin (by simpa using hkey)]

/-- Nothing is found under a key without entries. -/
theorem get?_ofList_eq_none {entries : List (String × α)} {key : String}
    (h : key ∉ entries.map Prod.fst) : (ofList entries).get? key = none := by
  have hnone : entries.filter (fun entry => entry.1 == key) = [] := by
    refine List.filter_eq_nil_iff.mpr fun entry hentry hkey => h ?_
    exact List.mem_map.mpr ⟨entry, hentry, by simpa using hkey⟩
  rw [get?_ofList, hnone]
  rfl

/-- If no key occurs twice, the entries are what is found. -/
theorem get?_ofList_eq_some_iff {entries : List (String × α)} (h : (entries.map Prod.fst).Nodup)
    {key : String} {value : α} :
    (ofList entries).get? key = some value ↔ (key, value) ∈ entries := by
  refine ⟨fun hfound => ?_, fun hmem => get?_ofList_eq_some hmem fun entry hentry hkey => ?_⟩
  · rw [get?_ofList] at hfound
    obtain ⟨last, hlast, rfl⟩ := Option.map_eq_some_iff.mp hfound
    obtain ⟨hin, hkey⟩ := List.mem_filter.mp (List.mem_of_getLast? hlast)
    obtain rfl : last.1 = key := by simpa using hkey
    exact hin
  · rw [List.inj_on_of_nodup_map h hentry hmem hkey]

/-- A dictionary has the keys of the list that it was made from. -/
theorem contains_ofList_iff (entries : List (String × α)) (key : String) :
    (ofList entries).contains key = true ↔ key ∈ entries.map Prod.fst := by
  rw [contains, get?_ofList, Option.isSome_map, List.getLast?_isSome, Ne, List.filter_eq_nil_iff]
  simp

/-- The keys of a dictionary are different. -/
theorem nodup_keys (dict : Dictionary α) : dict.keys.Nodup := by
  refine List.pairwise_map.mpr (dict.increasing.imp fun {first second} hlt heq => ?_)
  exact String.lt_irrefl second.1 (heq ▸ hlt)

/-- What is found for a key is exactly its entry. -/
theorem get?_eq_some_iff (dict : Dictionary α) {key : String} {value : α} :
    dict.get? key = some value ↔ (key, value) ∈ dict.entries := by
  have h : (ofList dict.entries).get? key = some value ↔ (key, value) ∈ dict.entries :=
    get?_ofList_eq_some_iff dict.nodup_keys
  rwa [ofList_entries] at h

theorem mem_keys_iff (dict : Dictionary α) {key : String} :
    key ∈ dict.keys ↔ ∃ value, dict.get? key = some value := by
  simp [keys, get?_eq_some_iff]

end Dictionary

end Dataflow
