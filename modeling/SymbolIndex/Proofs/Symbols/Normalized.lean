-- SUMMARY: First occurrences told by their places, and records that stay as they are normalized.
import SymbolIndex.Proofs.Symbols.Extracted
import SymbolIndex.Proofs.Text.Space

/-!
# Normalized records

The first occurrences in a list are the one list that has its texts, each once and in
the order in which they first come. To normalize a record reduces each of its lists to
that, so a record is normalized once for all, and the records of files are.
-/

namespace SymbolIndex

open Syntax

/-! ## First occurrences by their places -/

namespace Text

/-- The texts of `xs` that are not empty, each once, in the order in which they first
come in `xs`. -/
structure AreFirsts (xs ys : List String) : Prop where
  nodup : ys.Nodup
  mem_iff (x : String) : x ∈ ys ↔ x ∈ xs ∧ x ≠ ""
  ascend : ys.Pairwise fun x y => xs.idxOf x < xs.idxOf y

/-- There is one such list. -/
theorem AreFirsts.unique {xs ys zs : List String} (hys : AreFirsts xs ys)
    (hzs : AreFirsts xs zs) : ys = zs := by
  have hperm : ys.Perm zs :=
    (List.perm_ext_iff_of_nodup hys.nodup hzs.nodup).2 fun x => by rw [hys.mem_iff, hzs.mem_iff]
  refine hperm.eq_of_pairwise (fun x y _ _ hxy hyx => ?_) hys.ascend hzs.ascend
  exact absurd hxy (Nat.lt_asymm hyx)

theorem distinct_cons_empty (xs : List String) : distinct ("" :: xs) = distinct xs := by
  rw [distinct, distinct, List.filter_cons_of_neg (by simp)]

theorem distinct_cons {x : String} (hx : x ≠ "") (xs : List String) :
    distinct (x :: xs) = x :: (distinct xs).filter (· ≠ x) := by
  rw [distinct, List.filter_cons_of_pos (by simpa using hx), firsts_cons, distinct]

/-- A text in front puts off the places of all others by one. -/
theorem ascend_cons {x : String} {xs ys : List String} (hx : x ∉ ys)
    (h : ys.Pairwise fun y z => xs.idxOf y < xs.idxOf z) :
    ys.Pairwise fun y z => (x :: xs).idxOf y < (x :: xs).idxOf z := by
  refine h.imp_of_mem fun {y z} hy hz hlt => ?_
  have hne : ∀ w ∈ ys, x ≠ w := fun w hw heq => hx (heq ▸ hw)
  rw [List.idxOf_cons_ne _ (hne y hy), List.idxOf_cons_ne _ (hne z hz)]
  exact Nat.succ_lt_succ hlt

theorem ascend_distinct (xs : List String) :
    (distinct xs).Pairwise fun x y => xs.idxOf x < xs.idxOf y := by
  induction xs with
  | nil => exact List.Pairwise.nil
  | cons x xs ih =>
      by_cases hx : x = ""
      · subst hx
        rw [distinct_cons_empty]
        exact ascend_cons (fun hmem => (mem_distinct.1 hmem).2 rfl) ih
      · have hnotMem : x ∉ (distinct xs).filter (· ≠ x) := by simp
        rw [distinct_cons hx]
        refine List.pairwise_cons.2
          ⟨fun y hy => ?_, ascend_cons hnotMem (ih.sublist List.filter_sublist)⟩
        have hne : x ≠ y := fun heq => hnotMem (heq ▸ hy)
        rw [List.idxOf_cons_self, List.idxOf_cons_ne _ hne]
        exact Nat.succ_pos _

theorem areFirsts_distinct (xs : List String) : AreFirsts xs (distinct xs) :=
  ⟨nodup_distinct xs, fun _ => mem_distinct, ascend_distinct xs⟩

theorem eq_distinct_iff {xs ys : List String} : ys = distinct xs ↔ AreFirsts xs ys := by
  constructor
  · rintro rfl
    exact areFirsts_distinct xs
  · intro h
    exact h.unique (areFirsts_distinct xs)

theorem distinct_distinct_append_distinct (xs ys : List String) :
    distinct (distinct xs ++ distinct ys) = distinct (xs ++ ys) := by
  rw [distinct_append_distinct, distinct_distinct_append]

end Text

/-! ## Records -/

theorem SymbolRecord.normalized_normalized (r : SymbolRecord) :
    r.normalized.normalized = r.normalized := by
  simp only [normalized, Text.trim_trim, Text.distinct_distinct]

theorem Source.normalized_extract (src : Source) (tree : Node) :
    (src.extract tree).normalized = src.extract tree :=
  SymbolRecord.normalized_normalized _

theorem normalized_extractFile (parse : Parser) (extension : String) (bytes : Bytes) :
    (extractFile parse extension bytes).normalized = extractFile parse extension bytes := by
  have hempty : SymbolRecord.normalized {} = {} := by decide
  unfold extractFile
  split
  · exact hempty
  · split
    · exact hempty
    · exact Source.normalized_extract _ _

/-- First occurrences are told by the texts and their places alone, those of a list that
is put together come from its parts, and what is once normalized stays as it is: any
record, and that of a tree or of a file at once. -/
theorem SymbolRecord.normalized_keeps_firsts :
    (∀ xs ys : List String, ys = Text.distinct xs ↔ Text.AreFirsts xs ys) ∧
    (∀ xs ys, Text.distinct (xs ++ ys) =
      Text.distinct xs ++ (Text.distinct ys).filter (· ∉ xs)) ∧
    (∀ xs ys, Text.distinct (Text.distinct xs ++ Text.distinct ys) = Text.distinct (xs ++ ys)) ∧
    (∀ r : SymbolRecord, r.normalized.normalized = r.normalized) ∧
    (∀ (src : Source) (tree : Node), (src.extract tree).normalized = src.extract tree) ∧
    ∀ (parse : Parser) (extension : String) (bytes : Bytes),
      (extractFile parse extension bytes).normalized = extractFile parse extension bytes :=
  ⟨fun _ _ => Text.eq_distinct_iff, Text.distinct_append, Text.distinct_distinct_append_distinct,
    normalized_normalized, Source.normalized_extract, normalized_extractFile⟩

end SymbolIndex
