import Dataflow.Text.Replace
import Mathlib.Data.List.Infix

/-!
# Replacing in parts of a text

Replacement goes through a text from the left. A character that the pattern does not hold lies in no
occurrence, so the texts before and behind it are replaced independently; and a text without an
occurrence stays as it is.
-/

namespace Dataflow.Text

variable {pattern replacement : List Char}

theorem occursIn_iff {text : List Char} : occursIn pattern text = true ↔ pattern <:+: text := by
  induction text with
  | nil => simp [occursIn]
  | cons c rest ih =>
    rw [occursIn, Bool.or_eq_true, ih, List.isPrefixOf_iff_prefix, List.infix_cons_iff]

/-- Characters that are left to skip do not count. -/
theorem replaceFrom_eq_drop (skip : Nat) (text : List Char) :
    replaceFrom pattern replacement skip text =
      replaceAll pattern replacement (text.drop skip) := by
  induction skip generalizing text with
  | zero => rfl
  | succ skip ih =>
    cases text with
    | nil => simp [replaceFrom, replaceAll]
    | cons c rest => exact ih rest

@[simp]
theorem replaceAll_nil : replaceAll pattern replacement [] = [] := by simp [replaceAll, replaceFrom]

/-- An occurrence at the start is replaced, and the replacement is not looked at again. -/
theorem replaceAll_pattern_append (hpattern : pattern ≠ []) (rest : List Char) :
    replaceAll pattern replacement (pattern ++ rest) =
      replacement ++ replaceAll pattern replacement rest := by
  cases hcons : pattern with
  | nil => exact absurd hcons hpattern
  | cons c front =>
    have hstarts : (c :: front).isPrefixOf (c :: (front ++ rest)) = true :=
      List.isPrefixOf_iff_prefix.mpr ⟨rest, rfl⟩
    rw [List.cons_append, replaceAll, replaceFrom, if_pos hstarts, replaceFrom_eq_drop]
    simp

/-- A character where the pattern does not begin stays. -/
theorem replaceAll_cons {c : Char} {rest : List Char} (h : ¬pattern <+: c :: rest) :
    replaceAll pattern replacement (c :: rest) = c :: replaceAll pattern replacement rest := by
  rw [← List.isPrefixOf_iff_prefix] at h
  rw [replaceAll, replaceFrom, if_neg h, replaceAll]

/-- A text without the pattern stays as it is. -/
theorem replaceAll_of_not_occurs {text : List Char} (h : ¬pattern <:+: text) :
    replaceAll pattern replacement text = text := by
  induction text with
  | nil => exact replaceAll_nil
  | cons c rest ih =>
    rw [List.infix_cons_iff, not_or] at h
    rw [replaceAll_cons h.1, ih h.2]

/-- A pattern that begins before a character outside it ends before that character. -/
theorem prefix_of_prefix_append_cons {before after : List Char} {c : Char} (hc : c ∉ pattern)
    (h : pattern <+: before ++ c :: after) : pattern <+: before := by
  refine List.prefix_of_prefix_length_le h (List.prefix_append _ _) ?_
  by_contra hlong
  have hshort : before ++ [c] <+: pattern := by
    refine List.prefix_of_prefix_length_le ⟨after, by simp⟩ h ?_
    rw [List.length_append, List.length_singleton]
    omega
  exact hc (hshort.subset (by simp))

/-- The parts of a text around a character outside the pattern are replaced one by one. -/
theorem replaceAll_append_cons (hpattern : pattern ≠ []) {before after : List Char} {c : Char}
    (hc : c ∉ pattern) :
    replaceAll pattern replacement (before ++ c :: after) =
      replaceAll pattern replacement before ++ c :: replaceAll pattern replacement after := by
  -- an occurrence at the start takes several characters at once
  induction hlength : before.length using Nat.strong_induction_on generalizing before with
  | h length ih =>
    subst hlength
    cases before with
    | nil =>
      rw [List.nil_append, replaceAll_nil, List.nil_append]
      refine replaceAll_cons fun h => hpattern ?_
      exact List.prefix_nil.mp (prefix_of_prefix_append_cons hc h)
    | cons d before =>
      by_cases hstarts : pattern <+: d :: before
      · obtain ⟨rest, hrest⟩ := hstarts
        have hshort : rest.length < (d :: before).length := by
          rw [← hrest, List.length_append]
          exact Nat.lt_add_of_pos_left (List.length_pos_iff.mpr hpattern)
        rw [← hrest, List.append_assoc, replaceAll_pattern_append hpattern, ih _ hshort rfl,
          replaceAll_pattern_append hpattern, List.append_assoc]
      · have hlonger : ¬pattern <+: d :: (before ++ c :: after) :=
          fun h => hstarts (prefix_of_prefix_append_cons hc h)
        rw [List.cons_append, replaceAll_cons hlonger, replaceAll_cons hstarts,
          ih _ (Nat.lt_succ_self _) rfl, List.cons_append]

end Dataflow.Text
