-- SUMMARY: First occurrences: duplicates and empty texts dropped, order kept.

/-! # First occurrences

`distinct` keeps the first occurrence of every text that is not empty. The
symbol lists of a file, the collections of matched files and the symbols of a
document all go through it. -/

namespace SymbolIndex.Text

/-- The members of `xs` in order, without those in `seen` and without the later
copies of a member. -/
def firstsBeyond [DecidableEq α] (seen : List α) : List α → List α
  | [] => []
  | x :: xs => if x ∈ seen then firstsBeyond seen xs else x :: firstsBeyond (x :: seen) xs

/-- The first occurrence of every member. -/
def firsts [DecidableEq α] (xs : List α) : List α := firstsBeyond [] xs

/-- The first occurrence of every text that is not empty. -/
def distinct (xs : List String) : List String := firsts (xs.filter (· ≠ ""))

/-! ## Laws -/

theorem mem_firstsBeyond [DecidableEq α] {seen xs : List α} {x : α} :
    x ∈ firstsBeyond seen xs ↔ x ∈ xs ∧ x ∉ seen := by
  induction xs generalizing seen with
  | nil => simp [firstsBeyond]
  | cons y ys ih =>
      unfold firstsBeyond
      split
      · rename_i hy
        rw [ih]
        constructor
        · rintro ⟨h, hn⟩
          exact ⟨.tail _ h, hn⟩
        · rintro ⟨h, hn⟩
          cases h with
          | head => exact absurd hy hn
          | tail _ h => exact ⟨h, hn⟩
      · rename_i hy
        rw [List.mem_cons, ih]
        constructor
        · rintro (rfl | ⟨h, hn⟩)
          · exact ⟨.head _, hy⟩
          · exact ⟨.tail _ h, fun hs => hn (.tail _ hs)⟩
        · rintro ⟨h, hn⟩
          by_cases hxy : x = y
          · exact .inl hxy
          · cases h with
            | head => exact absurd rfl hxy
            | tail _ h =>
                refine .inr ⟨h, fun hs => ?_⟩
                cases hs with
                | head => exact hxy rfl
                | tail _ hs => exact hn hs

theorem mem_firsts [DecidableEq α] {xs : List α} {x : α} : x ∈ firsts xs ↔ x ∈ xs := by
  simp [firsts, mem_firstsBeyond]

theorem mem_distinct {xs : List String} {x : String} : x ∈ distinct xs ↔ x ∈ xs ∧ x ≠ "" := by
  simp [distinct, mem_firsts]

end SymbolIndex.Text
