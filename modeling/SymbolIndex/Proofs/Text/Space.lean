-- SUMMARY: What trimming leaves of a text, of a trimmed text, and of a text with more behind it.
import Mathlib.Data.List.DropRight
import SymbolIndex.Text.Space

/-!
# Trimming

A trimmed text has nothing left to trim. A text with more behind it keeps what
trimming left of it, and comes to the same exactly if only white space was added.
-/

namespace SymbolIndex.Text

/-! ## Tails -/

theorem dropTail_eq_rdropWhile (p : α → Bool) (xs : List α) : dropTail p xs = xs.rdropWhile p := rfl

theorem dropTail_eq_nil_iff {p : α → Bool} {xs : List α} : dropTail p xs = [] ↔ ∀ x ∈ xs, p x := by
  rw [dropTail_eq_rdropWhile, List.rdropWhile_eq_nil_iff]

theorem dropTail_append (p : α → Bool) (xs ys : List α) :
    dropTail p (xs ++ ys) = if dropTail p ys = [] then dropTail p xs else xs ++ dropTail p ys := by
  unfold dropTail
  rw [List.reverse_append, List.dropWhile_append]
  simp only [List.isEmpty_iff, List.reverse_eq_nil_iff]
  split
  · rfl
  · rw [List.reverse_append, List.reverse_reverse]

theorem dropTail_prefix_append (p : α → Bool) (xs ys : List α) :
    dropTail p xs <+: dropTail p (xs ++ ys) := by
  rw [dropTail_append]
  split
  · exact List.prefix_rfl
  · exact (List.rdropWhile_prefix p xs).trans (List.prefix_append xs _)

/-! ## Both ends -/

theorem trimStartChars_of_prefix {cs ds : List Char} (h : ds <+: trimStartChars cs) :
    trimStartChars ds = ds := by
  have hstart : trimStartChars (trimStartChars cs) = trimStartChars cs :=
    List.dropWhile_idempotent isSpace cs
  unfold trimStartChars at h hstart ⊢
  rw [List.dropWhile_eq_self_iff] at hstart ⊢
  intro hds
  rw [h.getElem hds]
  exact hstart (Nat.lt_of_lt_of_le hds h.length_le)

theorem trimChars_trimChars (cs : List Char) : trimChars (trimChars cs) = trimChars cs := by
  have hprefix : trimChars cs <+: trimStartChars cs := List.rdropWhile_prefix isSpace _
  have hend : trimEndChars (trimChars cs) = trimChars cs := List.rdropWhile_idempotent isSpace _
  rw [trimChars, trimStartChars_of_prefix hprefix, hend]

@[simp] theorem trim_trim (s : String) : trim (trim s) = trim s := by
  rw [trim, toList_trim, trimChars_trimChars, trim]

theorem trimChars_eq_nil_iff {cs : List Char} : trimChars cs = [] ↔ ∀ c ∈ cs, isSpace c := by
  rw [trimChars, trimEndChars, dropTail_eq_nil_iff]
  constructor
  · intro h
    by_cases hne : cs.dropWhile isSpace = []
    · exact List.dropWhile_eq_nil_iff.1 hne
    · have hhead := List.head_dropWhile_not isSpace hne
      have hspace := h _ (List.head_mem hne)
      exact absurd (hspace.symm.trans hhead) (by decide)
  · intro h c hc
    exact h c ((List.dropWhile_sublist isSpace).subset hc)

/-- What trimming leaves of a text stays if more is added behind it. -/
theorem trimChars_prefix_append (cs ds : List Char) : trimChars cs <+: trimChars (cs ++ ds) := by
  unfold trimChars trimStartChars trimEndChars
  rw [List.dropWhile_append]
  split
  case isTrue hblank =>
    rw [List.isEmpty_iff.1 hblank]
    exact List.nil_prefix
  case isFalse => exact dropTail_prefix_append isSpace _ ds

theorem trimChars_append_eq_iff {cs ds : List Char} :
    trimChars (cs ++ ds) = trimChars cs ↔ ∀ d ∈ ds, isSpace d := by
  rw [← dropTail_eq_nil_iff]
  by_cases hblank : cs.dropWhile isSpace = []
  · have hcs : trimChars cs = [] := trimChars_eq_nil_iff.2 (List.dropWhile_eq_nil_iff.1 hblank)
    have hds : trimChars (cs ++ ds) = trimChars ds := by
      simp only [trimChars, trimStartChars, List.dropWhile_append, hblank, List.isEmpty_nil,
        if_true]
    rw [hcs, hds, trimChars_eq_nil_iff, dropTail_eq_nil_iff]
  · have hds : trimChars (cs ++ ds) = dropTail isSpace (cs.dropWhile isSpace ++ ds) := by
      simp only [trimChars, trimStartChars, trimEndChars, List.dropWhile_append, List.isEmpty_iff,
        if_neg hblank]
    have hcs : trimChars cs = dropTail isSpace (cs.dropWhile isSpace) := rfl
    rw [hds, hcs, dropTail_append]
    constructor
    · intro h
      by_contra hne
      rw [if_neg hne] at h
      -- the left side is longer: it has all of what the right side is cut from
      have hlength := congrArg List.length h
      have hle := (List.rdropWhile_prefix isSpace (cs.dropWhile isSpace)).length_le
      have hpos := List.length_pos_iff.2 hne
      rw [List.length_append, dropTail_eq_rdropWhile isSpace (cs.dropWhile isSpace)] at hlength
      omega
    · intro h
      rw [if_pos h]

end SymbolIndex.Text
