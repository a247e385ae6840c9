-- SUMMARY: First occurrences of a list that is put together from others.
import Mathlib.Data.List.Basic
import SymbolIndex.Text.Distinct

/-!
# First occurrences of a concatenation

The first occurrences in two lists are those in the one, and behind them those
in the other that are new. So it does not matter whether the parts of a list are
reduced to first occurrences before they are put together.
-/

namespace SymbolIndex.Text

/-! ## Any members -/

section Firsts

variable [DecidableEq α]

theorem nodup_firstsBeyond (seen xs : List α) : (firstsBeyond seen xs).Nodup := by
  induction xs generalizing seen with
  | nil => exact List.nodup_nil
  | cons x xs ih =>
      unfold firstsBeyond
      split
      · exact ih seen
      · refine List.nodup_cons.2 ⟨fun hx => ?_, ih (x :: seen)⟩
        exact (mem_firstsBeyond.1 hx).2 List.mem_cons_self

theorem firstsBeyond_sublist (seen xs : List α) : (firstsBeyond seen xs).Sublist xs := by
  induction xs generalizing seen with
  | nil => exact .slnil
  | cons x xs ih =>
      unfold firstsBeyond
      split
      · exact (ih seen).cons x
      · exact (ih (x :: seen)).cons_cons x

/-- First occurrences of numbers in ascending order ascend strictly. -/
theorem pairwise_lt_firsts {ns : List Nat} (h : ns.Pairwise (· ≤ ·)) :
    (firsts ns).Pairwise (· < ·) := by
  have hle : (firsts ns).Pairwise (· ≤ ·) := h.sublist (firstsBeyond_sublist [] ns)
  exact (hle.and (nodup_firstsBeyond [] ns)).imp fun ⟨hle, hne⟩ => Nat.lt_of_le_of_ne hle hne

theorem firstsBeyond_eq_filter (seen xs : List α) :
    firstsBeyond seen xs = (firsts xs).filter (· ∉ seen) := by
  induction xs generalizing seen with
  | nil => rfl
  | cons x xs ih =>
      have hfirsts : firsts (x :: xs) = x :: (firsts xs).filter (· ∉ [x]) := by
        rw [firsts, firstsBeyond, if_neg List.not_mem_nil, ih [x]]
      rw [firstsBeyond, hfirsts, List.filter_cons, List.filter_filter]
      by_cases hx : x ∈ seen
      · rw [if_pos hx, if_neg (by simp [hx]), ih seen]
        refine List.filter_congr fun y _ => ?_
        have hne : y ∉ seen → y ≠ x := fun hy hyx => hy (hyx ▸ hx)
        grind
      · rw [if_neg hx, if_pos (by simp [hx]), ih (x :: seen)]
        congr 1
        refine List.filter_congr fun y _ => ?_
        simp [Bool.and_comm]

theorem firsts_cons (x : α) (xs : List α) :
    firsts (x :: xs) = x :: (firsts xs).filter (· ≠ x) := by
  rw [firsts, firstsBeyond, if_neg List.not_mem_nil, firstsBeyond_eq_filter]
  simp only [List.mem_singleton, ne_eq]

theorem firsts_append (xs ys : List α) :
    firsts (xs ++ ys) = firsts xs ++ (firsts ys).filter (· ∉ xs) := by
  induction xs with
  | nil => simp [firsts, firstsBeyond]
  | cons x xs ih =>
      rw [List.cons_append, firsts_cons, ih, firsts_cons, List.filter_append, List.filter_filter,
        List.cons_append]
      simp [List.mem_cons, not_or]

theorem firsts_of_nodup {xs : List α} (h : xs.Nodup) : firsts xs = xs := by
  induction xs with
  | nil => rfl
  | cons x xs ih =>
      obtain ⟨hx, hxs⟩ := List.nodup_cons.1 h
      rw [firsts_cons, ih hxs, List.filter_eq_self.2]
      intro y hy
      exact decide_eq_true fun hyx => hx (hyx ▸ hy)

end Firsts

/-! ## Texts -/

theorem nodup_distinct (xs : List String) : (distinct xs).Nodup := nodup_firstsBeyond [] _

theorem distinct_append (xs ys : List String) :
    distinct (xs ++ ys) = distinct xs ++ (distinct ys).filter (· ∉ xs) := by
  rw [distinct, List.filter_append, firsts_append, distinct, distinct]
  congr 1
  refine List.filter_congr fun y hy => ?_
  have hne : y ≠ "" := (mem_distinct.1 hy).2
  simp [hne]

@[simp] theorem distinct_distinct (xs : List String) : distinct (distinct xs) = distinct xs := by
  have hkept : (distinct xs).filter (· ≠ "") = distinct xs :=
    List.filter_eq_self.2 fun x hx => decide_eq_true (mem_distinct.1 hx).2
  rw [distinct, hkept, firsts_of_nodup (nodup_distinct xs)]

theorem distinct_append_distinct (xs ys : List String) :
    distinct (xs ++ distinct ys) = distinct (xs ++ ys) := by
  rw [distinct_append, distinct_distinct, distinct_append]

theorem distinct_distinct_append (xs ys : List String) :
    distinct (distinct xs ++ ys) = distinct (xs ++ ys) := by
  rw [distinct_append, distinct_distinct, distinct_append]
  congr 1
  refine List.filter_congr fun y hy => ?_
  have hne : y ≠ "" := (mem_distinct.1 hy).2
  simp [mem_distinct, hne]

/-- The parts of a list may be reduced one by one. -/
theorem distinct_append_flatMap (xs : List String) (as : List α) (f : α → List String) :
    distinct (xs ++ as.flatMap fun a => distinct (f a)) = distinct (xs ++ as.flatMap f) := by
  induction as generalizing xs with
  | nil => rfl
  | cons a as ih =>
      rw [List.flatMap_cons, List.flatMap_cons, ← List.append_assoc, ih, List.append_assoc,
        ← distinct_append_distinct, distinct_distinct_append, distinct_append_distinct]

end SymbolIndex.Text
