-- SUMMARY: A type text without its argument lists, and what the bare name leaves of it.
import SymbolIndex.Proofs.Text.Space
import SymbolIndex.Text.Names

/-!
# Argument lists

The bare name of a type text is what stands in front of its first `<`. The
erased text loses every argument list and nothing else, so it may go on where
the bare name ends: with a nested type, with the brackets of an array, with the
mark of a nullable type.
-/

namespace SymbolIndex.Text

/-! ## Lists inside lists -/

/-- How many argument lists are open behind a text, if `depth` are open in front
of it; none if it closes a list that is not open. -/
def openLists (depth : Nat) : List Char → Option Nat
  | [] => some depth
  | c :: cs =>
      if c = '<' then openLists (depth + 1) cs
      else if c = '>' then
        match depth with
        | 0 => none
        | depth + 1 => openLists depth cs
      else openLists depth cs

/-- The characters of a text that stand in no argument list, if `depth` lists
are open in front of it. -/
def outsideLists (depth : Nat) : List Char → List Char
  | [] => []
  | c :: cs =>
      if c = '<' then outsideLists (depth + 1) cs
      else if c = '>' then outsideLists (depth - 1) cs
      else if depth = 0 then c :: outsideLists depth cs
      else outsideLists depth cs

/-- Every argument list of the text is closed, and none that was not open. -/
def isBalanced (s : String) : Bool := openLists 0 s.toList == some 0

/-- The text without its argument lists, trimmed. -/
def erased (s : String) : String := .ofList (trimChars (outsideLists 0 s.toList))

/-- What stands in no argument list behind the first `<`. -/
def behindLists (s : String) : List Char := outsideLists 0 (s.toList.dropWhile (· ≠ '<'))

/-- A text is read up to its first list, and goes on behind it. -/
theorem outsideLists_eq {cs : List Char} (h : openLists 0 cs ≠ none) :
    outsideLists 0 cs =
      cs.takeWhile (· ≠ '<') ++ outsideLists 0 (cs.dropWhile (· ≠ '<')) := by
  induction cs with
  | nil => rfl
  | cons c cs ih =>
      by_cases hopen : c = '<'
      · rw [List.takeWhile_cons_of_neg (by simp [hopen]),
          List.dropWhile_cons_of_neg (by simp [hopen]), List.nil_append]
      · rw [openLists, if_neg hopen] at h
        by_cases hclose : c = '>'
        · rw [if_pos hclose] at h
          exact absurd rfl h
        · rw [if_neg hclose] at h
          rw [List.takeWhile_cons_of_pos (by simp [hopen]),
            List.dropWhile_cons_of_pos (by simp [hopen]), outsideLists, if_neg hopen,
            if_neg hclose, if_pos rfl, ih h, List.cons_append]

variable {s : String}

theorem erased_eq (h : isBalanced s = true) :
    (erased s).toList = trimChars (s.toList.takeWhile (· ≠ '<') ++ behindLists s) := by
  have hlists : openLists 0 s.toList ≠ none := by
    rw [beq_iff_eq.1 h]
    exact Option.some_ne_none 0
  rw [erased, String.toList_ofList, outsideLists_eq hlists, behindLists]

/-! ## Bare names -/

/-- What the erased text has behind the bare name. -/
def cutOff (s : String) : String := .ofList ((erased s).toList.drop (bareName s).toList.length)

/-- The bare name is where the erased text starts. -/
theorem bareName_append_cutOff (h : isBalanced s = true) : bareName s ++ cutOff s = erased s := by
  have hprefix : (bareName s).toList <+: (erased s).toList := by
    rw [erased_eq h, bareName, String.toList_ofList]
    exact trimChars_prefix_append _ _
  apply String.toList_inj.1
  rw [String.toList_append, cutOff, String.toList_ofList]
  exact List.prefix_iff_eq_append.1 hprefix

/-- The bare name is the erased text exactly if nothing but white space stands
behind the argument lists. -/
theorem bareName_eq_erased_iff (h : isBalanced s = true) :
    bareName s = erased s ↔ ∀ c ∈ behindLists s, isSpace c := by
  rw [← trimChars_append_eq_iff, ← erased_eq h, eq_comm, ← String.toList_inj, bareName,
    String.toList_ofList]

/-- Texts that go on in the same way have one bare name exactly if they are the
same when erased. -/
theorem bareName_eq_iff_of_cutOff_eq {t : String} (hs : isBalanced s = true)
    (ht : isBalanced t = true) (h : cutOff s = cutOff t) :
    bareName s = bareName t ↔ erased s = erased t := by
  rw [← bareName_append_cutOff hs, ← bareName_append_cutOff ht, h, String.append_left_inj]

/-- Texts that go on in different ways never are the same in both senses. -/
theorem erased_ne_of_cutOff_ne {t : String} (hs : isBalanced s = true) (ht : isBalanced t = true)
    (h : cutOff s ≠ cutOff t) (hname : bareName s = bareName t) : erased s ≠ erased t := by
  rw [← bareName_append_cutOff hs, ← bareName_append_cutOff ht, hname, ne_eq,
    String.append_right_inj]
  exact h

example : erased "A.B<C<D>, E>.F<G>[]" = "A.B.F[]" ∧ cutOff "A.B<C<D>, E>.F<G>[]" = ".F[]" := by
  decide +kernel

end SymbolIndex.Text
