import Dataflow.Variable
import Mathlib.Data.List.Basic
import Mathlib.Data.List.Nodup
import Mathlib.Data.List.Perm.Subperm

/-!
# Names of variables

Every variable of a node begins with a tag, the letter `n` and the ordinal of the node in at least
two digits, and an underscore ends the tag. No digit is an underscore and padding does not change
the number that digits stand for, so the tag gives the ordinal back: nodes with different ordinals
have no variable in common. Within a node the search for an unused name ends at one, because there
are more candidates than names in use.
-/

namespace Dataflow

/-- What takes the place of a character may stand inside an identifier. -/
theorem Text.isWordChar_wordChar (c : Char) : Text.isWordChar (Text.wordChar c) = true := by
  unfold Text.wordChar
  split
  · assumption
  · rfl

/-- Digits may stand inside an identifier. -/
theorem Text.isWordChar_of_isDigit {c : Char} (h : c.isDigit = true) :
    Text.isWordChar c = true := by
  simp [Text.isWordChar, Char.isAlphanum, h]

/-- Every character of an identifier may stand inside one. -/
theorem Text.isWordChar_of_isIdentifier {text : String} (h : Text.isIdentifier text = true)
    {c : Char} (hc : c ∈ text.toList) : Text.isWordChar c = true := by
  unfold Text.isIdentifier at h
  split at h
  · contradiction
  · next first rest htext =>
    obtain ⟨hfirst, hrest⟩ := Bool.and_eq_true_iff.mp h
    rw [htext] at hc
    rcases List.mem_cons.mp hc with rfl | hc
    · simp only [Text.isWordStart, Text.isWordChar, Char.isAlphanum, Bool.or_eq_true] at hfirst ⊢
      exact hfirst.imp_left .inl
    · exact List.all_eq_true.mp hrest c hc

theorem Decimal.isDigit_of_mem_digitsOf {n : Nat} {c : Char} (h : c ∈ Decimal.digitsOf n) :
    c.isDigit = true :=
  Nat.isDigit_of_mem_toDigits (by omega) (by omega) h

/-- Digits stand for one number only. -/
theorem Decimal.digitsOf_injective {a b : Nat} (h : Decimal.digitsOf a = Decimal.digitsOf b) :
    a = b := by
  have hv := congrArg (fun digits => Nat.ofDigitChars 10 digits 0) h
  simpa only [Decimal.digitsOf, Nat.ofDigitChars_ten_toDigits] using hv

namespace Variable

/-- The digits of a tag, padded to two. -/
def padded (ordinal : UInt32) : List Char :=
  if (Decimal.digitsOf ordinal.toNat).length < 2 then '0' :: Decimal.digitsOf ordinal.toNat
  else Decimal.digitsOf ordinal.toNat

theorem tag_eq (ordinal : UInt32) : tag ordinal = 'n' :: padded ordinal := rfl

/-- Padding does not change the number that the digits stand for. -/
theorem ofDigitChars_padded (ordinal : UInt32) :
    Nat.ofDigitChars 10 (padded ordinal) 0 = ordinal.toNat := by
  unfold padded
  split
  · rw [Nat.ofDigitChars_cons]
    exact Nat.ofDigitChars_ten_toDigits
  · exact Nat.ofDigitChars_ten_toDigits

theorem isDigit_of_mem_padded {ordinal : UInt32} {c : Char} (h : c ∈ padded ordinal) :
    c.isDigit = true := by
  unfold padded at h
  split at h
  · rcases List.mem_cons.mp h with rfl | h
    · rfl
    · exact Decimal.isDigit_of_mem_digitsOf h
  · exact Decimal.isDigit_of_mem_digitsOf h

/-- A tag determines its ordinal. -/
theorem tag_injective {a b : UInt32} (h : tag a = tag b) : a = b := by
  rw [tag_eq, tag_eq] at h
  have hv := congrArg (fun digits => Nat.ofDigitChars 10 digits 0) (List.cons.inj h).2
  simp only [ofDigitChars_padded] at hv
  exact UInt32.toNat_inj.mp hv

/-- A tag ends at the first underscore. -/
theorem underscore_not_mem_tag (ordinal : UInt32) : '_' ∉ tag ordinal := by
  rw [tag_eq, List.mem_cons]
  rintro (h | h)
  · exact absurd h (by decide)
  · exact absurd (isDigit_of_mem_padded h) (by decide)

/-- Tags are made of characters of identifiers. -/
theorem isWordChar_of_mem_tag {ordinal : UInt32} {c : Char} (h : c ∈ tag ordinal) :
    Text.isWordChar c = true := by
  rw [tag_eq] at h
  rcases List.mem_cons.mp h with rfl | h
  · rfl
  · exact Text.isWordChar_of_isDigit (isDigit_of_mem_padded h)

/-- A text that a node with this ordinal may have as the name of a variable. -/
def IsNameOf (ordinal : UInt32) (text : String) : Prop :=
  ∃ rest, text.toList = tag ordinal ++ '_' :: rest ∧ ∀ c ∈ rest, Text.isWordChar c = true

/-- The name of a variable belongs to one ordinal only. -/
theorem IsNameOf.ordinal_eq {a b : UInt32} {text : String} (ha : IsNameOf a text)
    (hb : IsNameOf b text) : a = b := by
  obtain ⟨ra, hra, -⟩ := ha
  obtain ⟨rb, hrb, -⟩ := hb
  have htags := congrArg (List.takeWhile (· != '_')) (hra.symm.trans hrb)
  have htag (o : UInt32) (rest : List Char) :
      (tag o ++ '_' :: rest).takeWhile (· != '_') = tag o := by
    rw [List.takeWhile_append_of_pos, List.takeWhile_cons_of_neg]
    · simp
    · simp
    · intro c hc
      simpa using fun he : c = '_' => underscore_not_mem_tag o (he ▸ hc)
  rw [htag, htag] at htags
  exact tag_injective htags

/-- Names of variables are identifiers. -/
theorem IsNameOf.isIdentifier {ordinal : UInt32} {text : String} (h : IsNameOf ordinal text) :
    Text.isIdentifier text = true := by
  obtain ⟨rest, htext, hrest⟩ := h
  have hall : ∀ c ∈ padded ordinal ++ '_' :: rest, Text.isWordChar c = true := by
    intro c hc
    rcases List.mem_append.mp hc with hc | hc
    · exact isWordChar_of_mem_tag (List.mem_cons_of_mem _ hc)
    · rcases List.mem_cons.mp hc with rfl | hc
      · rfl
      · exact hrest c hc
  rw [Text.isIdentifier, htext, tag_eq, List.cons_append]
  simp only [Bool.and_eq_true, List.all_eq_true]
  exact ⟨rfl, hall⟩

/-- The name of a port carries the number of the node. -/
theorem isNameOf_name (ordinal : UInt32) (port : String) :
    IsNameOf ordinal (name ordinal port) := by
  refine ⟨port.toList.map Text.wordChar, by simp [name], ?_⟩
  intro c hc
  obtain ⟨d, -, rfl⟩ := List.mem_map.mp hc
  exact Text.isWordChar_wordChar d

/-- The name of a captured result carries the number of the node. -/
theorem isNameOf_capture (ordinal : UInt32) : IsNameOf ordinal (capture ordinal) := by
  have hall : "result".toList.all Text.isWordChar = true := by rfl
  exact ⟨"result".toList, by simp [capture], List.all_eq_true.mp hall⟩

/-- A number at the end leaves the tag and the characters of a name as they are. -/
theorem IsNameOf.numbered {ordinal : UInt32} {base : String} (h : IsNameOf ordinal base)
    (number : Nat) : IsNameOf ordinal (numbered base number) := by
  obtain ⟨rest, hbase, hrest⟩ := h
  refine ⟨rest ++ '_' :: Decimal.digitsOf number, by simp [Variable.numbered, hbase], ?_⟩
  intro c hc
  rcases List.mem_append.mp hc with hc | hc
  · exact hrest c hc
  · rcases List.mem_cons.mp hc with rfl | hc
    · rfl
    · exact Text.isWordChar_of_isDigit (Decimal.isDigit_of_mem_digitsOf hc)

/-- Different numbers give different names. -/
theorem numbered_injective {base : String} {a b : Nat} (h : numbered base a = numbered base b) :
    a = b := by
  have hl := congrArg String.toList h
  simp only [numbered, String.toList_append, String.toList_ofList, List.append_cancel_left_eq,
    List.cons.injEq, true_and] at hl
  exact Decimal.digitsOf_injective hl

theorem numbered_ne (base : String) (number : Nat) : numbered base number ≠ base := by
  intro h
  have hl := congrArg (fun text => text.toList.length) h
  simp [numbered] at hl

/-- Candidates are pairwise different. -/
theorem nodup_candidates (base : String) (count : Nat) : (candidates base count).Nodup := by
  refine List.nodup_cons.mpr ⟨?_, ?_⟩
  · intro h
    obtain ⟨i, -, hi⟩ := List.mem_map.mp h
    exact numbered_ne base (i + 2) hi
  · refine List.Nodup.map ?_ List.nodup_range
    intro a b hab
    have := numbered_injective hab
    omega

/-- Some candidate is not in use, since there are more candidates than names in use. -/
theorem exists_unused_candidate (used : List String) (base : String) :
    ∃ candidate ∈ candidates base used.length, candidate ∉ used := by
  by_contra hall
  push Not at hall
  have hle := (List.subperm_of_subset (nodup_candidates base used.length) hall).length_le
  simp only [candidates, List.length_cons, List.length_map, List.length_range] at hle
  omega

/-- The search stops at a candidate. -/
theorem find?_candidates (used : List String) (base : String) :
    (candidates base used.length).find? (fun candidate => !used.contains candidate) =
      some (firstUnused used base) := by
  obtain ⟨unused, hmem, hunused⟩ := exists_unused_candidate used base
  have hsome : ((candidates base used.length).find? fun candidate =>
      !used.contains candidate).isSome = true := by
    rw [List.find?_isSome]
    exact ⟨unused, hmem, by simpa using hunused⟩
  obtain ⟨found, hfound⟩ := Option.isSome_iff_exists.mp hsome
  rw [firstUnused, hfound, Option.getD_some]

/-- The search finds a candidate that is not in use. -/
theorem firstUnused_spec (used : List String) (base : String) :
    firstUnused used base ∈ candidates base used.length ∧ firstUnused used base ∉ used := by
  have hfound := find?_candidates used base
  exact ⟨List.mem_of_find?_eq_some hfound, by simpa using List.find?_some hfound⟩

/-- All names that are tried for a port carry the number of the node. -/
theorem IsNameOf.of_mem_candidates {ordinal : UInt32} {base candidate : String} {count : Nat}
    (h : IsNameOf ordinal base) (hc : candidate ∈ candidates base count) :
    IsNameOf ordinal candidate := by
  rcases List.mem_cons.mp hc with rfl | hc
  · exact h
  · obtain ⟨i, -, rfl⟩ := List.mem_map.mp hc
    exact h.numbered (i + 2)

/-! ## Bindings -/

/-- The ports of the bindings are the ports that were bound, in the same order. -/
@[simp] theorem map_port_bindFrom (ordinal : UInt32) (used ports : List String) :
    (bindFrom ordinal used ports).map Binding.port = ports := by
  induction ports generalizing used with
  | nil => rfl
  | cons port rest ih => simp [bindFrom, ih]

@[simp] theorem map_port_bindPorts (ordinal : UInt32) (ports : List String) :
    (bindPorts ordinal ports).map Binding.port = ports :=
  map_port_bindFrom ordinal [] ports

/-- Every bound variable has the tag of its node. -/
theorem isNameOf_of_mem_bindFrom {ordinal : UInt32} {used ports : List String} {binding : Binding}
    (h : binding ∈ bindFrom ordinal used ports) : IsNameOf ordinal binding.name := by
  induction ports generalizing used with
  | nil => simp [bindFrom] at h
  | cons port rest ih =>
    rcases List.mem_cons.mp h with rfl | h
    · exact (isNameOf_name ordinal port).of_mem_candidates (firstUnused_spec used _).1
    · exact ih h

/-- The variables of a node carry its number. -/
theorem isNameOf_of_mem_bindPorts {ordinal : UInt32} {ports : List String} {binding : Binding}
    (h : binding ∈ bindPorts ordinal ports) : IsNameOf ordinal binding.name :=
  isNameOf_of_mem_bindFrom h

/-- No bound variable was in use before. -/
theorem not_mem_used_of_mem_bindFrom {ordinal : UInt32} {used ports : List String}
    {binding : Binding} (h : binding ∈ bindFrom ordinal used ports) : binding.name ∉ used := by
  induction ports generalizing used with
  | nil => simp [bindFrom] at h
  | cons port rest ih =>
    rcases List.mem_cons.mp h with rfl | h
    · exact (firstUnused_spec used _).2
    · exact fun hu => ih h (List.mem_cons_of_mem _ hu)

/-- Bound variables are pairwise different. -/
theorem nodup_names_bindFrom (ordinal : UInt32) (used ports : List String) :
    ((bindFrom ordinal used ports).map Binding.name).Nodup := by
  induction ports generalizing used with
  | nil => simp [bindFrom]
  | cons port rest ih =>
    refine List.nodup_cons.mpr ⟨?_, ih _⟩
    intro h
    obtain ⟨binding, hmem, hname⟩ := List.mem_map.mp h
    -- the later binding starts its search with the earlier variable in use
    exact not_mem_used_of_mem_bindFrom hmem (hname ▸ List.mem_cons_self)

/-- The variables of a node are different, also where its ports are not. -/
theorem nodup_names_bindPorts (ordinal : UInt32) (ports : List String) :
    ((bindPorts ordinal ports).map Binding.name).Nodup :=
  nodup_names_bindFrom ordinal [] ports

end Variable

end Dataflow
