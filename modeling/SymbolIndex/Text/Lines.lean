-- SUMMARY: Splitting text into lines and at a character.

/-! # Lines

A line ends at `\n`, and a `\r` just before it belongs to the terminator. Text
after the last `\n` is a line of its own unless it is empty. -/

namespace SymbolIndex.Text

/-! ## Splitting -/

/-- The parts between the members equal to `sep`; always at least one part. -/
def splitAt [DecidableEq α] (sep : α) : List α → List (List α)
  | [] => [[]]
  | c :: cs =>
      if c = sep then [] :: splitAt sep cs
      else match splitAt sep cs with
        | [] => [[c]]
        | part :: parts => (c :: part) :: parts

@[simp] theorem splitAt_nil [DecidableEq α] (sep : α) : splitAt sep [] = [[]] := rfl

theorem splitAt_ne_nil [DecidableEq α] (sep : α) (cs : List α) : splitAt sep cs ≠ [] := by
  cases cs with
  | nil => simp
  | cons c cs =>
      unfold splitAt
      split
      · simp
      · split <;> simp

/-- Writing the separator between the parts gives the text back. -/
theorem intercalate_splitAt [DecidableEq α] (sep : α) (cs : List α) :
    [sep].intercalate (splitAt sep cs) = cs := by
  induction cs with
  | nil => rfl
  | cons c cs ih =>
      unfold splitAt
      split
      · rename_i h
        cases hs : splitAt sep cs with
        | nil => exact absurd hs (splitAt_ne_nil sep cs)
        | cons part parts =>
            rw [hs] at ih
            simp [List.intercalate, List.intersperse] at ih ⊢
            exact ⟨h.symm, ih⟩
      · cases hs : splitAt sep cs with
        | nil => exact absurd hs (splitAt_ne_nil sep cs)
        | cons part parts =>
            rw [hs] at ih
            cases parts <;> simp_all [List.intercalate, List.intersperse]

/-- The parts of a text between the occurrences of a character. -/
def split (sep : Char) (s : String) : List String := (splitAt sep s.toList).map String.ofList

/-! ## Lines -/

/-- A line without the `\r` of its terminator. -/
def dropReturn (cs : List Char) : List Char :=
  match cs.getLast? with
  | some '\r' => cs.dropLast
  | _ => cs

/-- The lines among the parts between the `\n`s: every part but the last one
had a terminator, and the last one counts only if it is not empty. -/
def linesOfParts : List (List Char) → List (List Char)
  | [] => []
  | [last] => if last.isEmpty then [] else [last]
  | part :: parts => dropReturn part :: linesOfParts parts

def linesChars (cs : List Char) : List (List Char) := linesOfParts (splitAt '\n' cs)

/-- The lines of a text, without their terminators. -/
def lines (s : String) : List String := (linesChars s.toList).map String.ofList

end SymbolIndex.Text
