-- SUMMARY: Name normal forms: without generic arguments, without a suffix, cut to a length.
import SymbolIndex.Text.Space

/-! # Names

Two type names are compared by what is in front of their generic arguments, and
an attribute may be written with or without its suffix `Attribute`. -/

namespace SymbolIndex.Text

/-! ## Affixes -/

/-- The list behind the affix `p` at its front. -/
def stripFront? [DecidableEq α] : (p xs : List α) → Option (List α)
  | [], xs => some xs
  | _ :: _, [] => none
  | a :: p, x :: xs => if a = x then stripFront? p xs else none

/-- The list before the affix `p` at its end. -/
def stripBack? [DecidableEq α] (p xs : List α) : Option (List α) :=
  (stripFront? p.reverse xs.reverse).map List.reverse

theorem stripFront?_eq_some_iff [DecidableEq α] {p xs ys : List α} :
    stripFront? p xs = some ys ↔ xs = p ++ ys := by
  induction p generalizing xs with
  | nil => simp [stripFront?]
  | cons a p ih =>
      cases xs with
      | nil => simp [stripFront?]
      | cons x xs =>
          unfold stripFront?
          split
          · rename_i h
            simp [h, ih]
          · rename_i h
            simp
            exact fun h' => absurd h'.symm h

/-- Takes the affix `p` off the end as long as there is one. The empty affix is
never taken off. -/
def stripBackAll [DecidableEq α] (p : List α) : (fuel : Nat) → List α → List α
  | 0, xs => xs
  | fuel + 1, xs =>
      if p.isEmpty then xs
      else match stripBack? p xs with
        | some ys => stripBackAll p fuel ys
        | none => xs

/-- The text without every copy of `suffix` at its end. -/
def dropSuffixes (suffix s : String) : String :=
  .ofList (stripBackAll suffix.toList s.toList.length s.toList)

/-! ## Normal forms -/

/-- The name in front of its generic arguments: what precedes the first `<`,
trimmed. -/
def bareName (s : String) : String := .ofList (trimChars (s.toList.takeWhile (· ≠ '<')))

/-- The name of an attribute without the suffix `Attribute`; the suffix alone
is a name of its own. -/
def attributeName (s : String) : String :=
  match stripBack? "Attribute".toList s.toList with
  | some (c :: cs) => .ofList (c :: cs)
  | _ => s

/-- The part behind the last `.`. -/
def lastSegment (s : String) : String :=
  .ofList (s.toList.reverse.takeWhile (· ≠ '.')).reverse

/-- At most `limit` characters, with an ellipsis behind them if any were cut. -/
def truncate (s : String) (limit : Nat) : String :=
  if limit < s.toList.length then .ofList (s.toList.take limit ++ ['…']) else s

/-- ASCII letters in lower case. -/
def lowerAscii (s : String) : String := .ofList (s.toList.map Char.toLower)

end SymbolIndex.Text
