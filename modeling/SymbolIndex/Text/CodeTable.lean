-- SUMMARY: Tables of code points that are written as words.
import SymbolIndex.Text.Lines

/-! # Code tables

A table is a list of rows of words, and a word stands for some code points, in
hexadecimal. `A-C` are the code points from `A` to `C`. In a table with targets
`A:x,y+z` takes `A` to `x` and the next code point to `y` and `z`, `A-C:x` takes
`A` to `x`, the next one to the one behind `x`, and so on, and `A/E:x` does the
same for every second code point. -/

namespace SymbolIndex.Text

/-! ## Numbers -/

/-- The value of a digit to the base 16. -/
def hexDigit? (c : Char) : Option Nat :=
  if c.isDigit then some (c.toNat - 48)
  else if 'a' ≤ c && c ≤ 'f' then some (c.toNat - 87)
  else if 'A' ≤ c && c ≤ 'F' then some (c.toNat - 55)
  else none

/-- The number that digits of a base stand for, 16 at most. -/
def digits? (base : Nat) (cs : List Char) : Option Nat :=
  cs.foldlM (fun n c => (hexDigit? c).bind fun d =>
    if d < base then some (n * base + d) else none) 0

/-- The code point of a word. -/
def codePoint (cs : List Char) : Nat := (digits? 16 cs).getD 0

/-- The words of a table. -/
def tableWords (rows : List String) : List (List Char) :=
  rows.flatMap fun row => splitAt ' ' row.toList

/-! ## Ranges -/

structure CodeRange where
  first : Nat
  last : Nat
  deriving DecidableEq, Repr

namespace CodeRange

def ofWord (word : List Char) : CodeRange :=
  match splitAt '-' word with
  | [first, last] => ⟨codePoint first, codePoint last⟩
  | _ => ⟨codePoint word, codePoint word⟩

def contains (r : CodeRange) (c : Char) : Bool := r.first ≤ c.toNat && c.toNat ≤ r.last

end CodeRange

/-- A set of characters. -/
abbrev CodeSet := List CodeRange

def CodeSet.ofRows (rows : List String) : CodeSet := (tableWords rows).map CodeRange.ofWord

def CodeSet.contains (set : CodeSet) (c : Char) : Bool := set.any (·.contains c)

/-! ## Targets -/

inductive CodeRow where
  /-- Every `step`-th code point from `first` to `last`, to one as far from
  `target`. -/
  | run (first last step target : Nat)
  /-- Successive code points from `first` on. -/
  | listed (first : Nat) (targets : List (List Char))
  deriving DecidableEq, Repr

namespace CodeRow

/-- The characters of a target. -/
def targetOf (cs : List Char) : List Char :=
  if cs.isEmpty then [] else (splitAt '+' cs).map fun part => .ofNat (codePoint part)

def ofWord (word : List Char) : CodeRow :=
  let source := word.takeWhile (· ≠ ':')
  let target := (word.dropWhile (· ≠ ':')).drop 1
  match splitAt '-' source, splitAt '/' source with
  | [first, last], _ => run (codePoint first) (codePoint last) 1 (codePoint target)
  | _, [first, last] => run (codePoint first) (codePoint last) 2 (codePoint target)
  | _, _ => listed (codePoint source) ((splitAt ',' target).map targetOf)

/-- What the row takes a character to, if the character is in it. -/
def target? (c : Char) : CodeRow → Option (List Char)
  | run first last step target =>
      let n := c.toNat
      let isIn := first ≤ n && n ≤ last && (n - first) % step = 0
      if isIn then some [.ofNat (target + (n - first))] else none
  | listed first targets => if first ≤ c.toNat then targets[c.toNat - first]? else none

/-- The characters that the row takes to a pair, with the pair. -/
def pairs : CodeRow → List ((Char × Char) × Char)
  | run .. => []
  | listed first targets =>
      targets.zipIdx.filterMap fun (target, i) =>
        match target with
        | [a, b] => some ((a, b), .ofNat (first + i))
        | _ => none

end CodeRow

/-- What characters are replaced by. -/
abbrev CodeMap := List CodeRow

def CodeMap.ofRows (rows : List String) : CodeMap := (tableWords rows).map CodeRow.ofWord

def CodeMap.target? (map : CodeMap) (c : Char) : Option (List Char) := map.findSome? (·.target? c)

end SymbolIndex.Text
