-- SUMMARY: Sorted lists of paths ascend, strictly so once each path is kept in one spelling only.
import Mathlib.Data.List.Lex
import SymbolIndex.Proofs.Watch.Pending

/-!
# Order of paths

Components compare like the numbers of their kinds and bytes, and paths compare like
the lists of these. So the order is linear up to spelling: sorted paths ascend, and
strictly where no two of them are spellings of one.
-/

namespace SymbolIndex

/-! ## Numbers in the order of components -/

theorem Path.bytesLt_iff {a b : Bytes} :
    bytesLt a b = true ↔ a.map UInt8.toNat < b.map UInt8.toNat := by
  induction a generalizing b with
  | nil => cases b <;> simp [bytesLt]
  | cons x xs ih =>
      cases b with
      | nil => simp [bytesLt]
      | cons y ys =>
          simp [bytesLt, ih, List.cons_lt_cons_iff, UInt8.lt_iff_toNat_lt, UInt8.toNat_inj]

namespace Component

/-- The kind of a component and the bytes of its name. -/
def numbers : Component → List ℕ
  | .root => [0]
  | .current => [1]
  | .up => [2]
  | .normal name => 3 :: name.map UInt8.toNat

theorem numbers_injective : Function.Injective numbers := by
  intro a b h
  have hbytes : Function.Injective (List.map UInt8.toNat) :=
    List.map_injective_iff.2 fun _ _ => UInt8.toNat_inj.1
  cases a <;> cases b <;> simp_all [numbers, hbytes.eq_iff]

theorem componentLt_iff {a b : Component} :
    Path.componentLt a b = true ↔ a.numbers < b.numbers := by
  cases a <;> cases b <;>
    simp [Path.componentLt, numbers, Path.Component.rank, List.cons_lt_cons_iff, Path.bytesLt_iff]

end Component

/-! ## Order -/

namespace Path

variable {p q : Path} {ps : List Path}

def numbers (p : Path) : List (List ℕ) := p.components.map Component.numbers

theorem componentsLt_iff {cs ds : List Component} :
    componentsLt cs ds = true ↔ cs.map Component.numbers < ds.map Component.numbers := by
  induction cs generalizing ds with
  | nil => cases ds <;> simp [componentsLt]
  | cons c cs ih =>
      cases ds with
      | nil => simp [componentsLt]
      | cons d ds =>
          simp [componentsLt, ih, List.cons_lt_cons_iff, Component.componentLt_iff,
            Component.numbers_injective.eq_iff]

theorem le_iff : le p q = true ↔ p.numbers ≤ q.numbers := by
  rw [le, Bool.not_eq_true', Bool.eq_false_iff, ne_eq, componentsLt_iff, not_lt]
  rfl

theorem same_iff_numbers : p.same q = true ↔ p.numbers = q.numbers := by
  rw [same, decide_eq_true_eq, numbers, numbers,
    (List.map_injective_iff.2 Component.numbers_injective).eq_iff]

/-- Every path comes before those behind it. -/
def Ascends (ps : List Path) : Prop :=
  ps.Pairwise fun p q => componentsLt p.components q.components = true

theorem pairwise_sort (ps : List Path) : (sort ps).Pairwise fun p q => p.numbers ≤ q.numbers := by
  have htrans : ∀ p q r : Path, le p q = true → le q r = true → le p r = true :=
    fun _ _ _ hpq hqr => le_iff.2 ((le_iff.1 hpq).trans (le_iff.1 hqr))
  have htotal : ∀ p q : Path, (le p q || le q p) = true := by
    intro p q
    rw [Bool.or_eq_true, le_iff, le_iff]
    exact le_total p.numbers q.numbers
  exact (List.pairwise_mergeSort htrans htotal ps).imp le_iff.1

theorem mem_sort : p ∈ sort ps ↔ p ∈ ps := List.mem_mergeSort

/-- What is kept of paths in order ascends strictly. -/
theorem ascends_distinct (h : ps.Pairwise fun p q => p.numbers ≤ q.numbers) :
    Ascends (distinct ps) := by
  have hle := h.sublist (distinct_sublist ps)
  have happart : Separate (distinct ps) := separate_extend .nil
  refine (hle.and happart).imp fun {p q} ⟨hle, hapart⟩ => ?_
  rw [componentsLt_iff]
  refine lt_of_le_of_ne hle fun heq => ?_
  rw [same_iff_numbers.2 heq] at hapart
  cases hapart

end Path

end SymbolIndex
