-- SUMMARY: The composed form of text, one spelling for texts that look the same.
import SymbolIndex.Text.CombiningTable
import SymbolIndex.Text.CompositionTable

/-! # Composed text

The same text can be spelled with composed characters or with marks behind
their bases. The composed form takes every character apart, puts marks of
different classes in order, and composes what can be composed. -/

namespace SymbolIndex.Text

/-! ## Syllables -/

/-- The first syllable of Hangul, and the letters that syllables are made of: 19
initial and 21 medial ones, and 27 final ones, behind a code point that stands
for no final letter. -/
def firstSyllable : Nat := 0xAC00

def firstInitial : Nat := 0x1100

def firstMedial : Nat := 0x1161

def noFinal : Nat := 0x11A7

/-- The letters of a syllable. -/
def syllableLetters? (c : Char) : Option (List Char) :=
  let i := c.toNat - firstSyllable
  if firstSyllable ≤ c.toNat && i < 19 * 21 * 28 then
    let opening : List Char := [.ofNat (firstInitial + i / 588), .ofNat (firstMedial + i % 588 / 28)]
    some (if i % 28 = 0 then opening else opening ++ [.ofNat (noFinal + i % 28)])
  else none

/-- The syllable of an initial and a medial letter, or of a syllable without a
final letter and that letter. -/
def syllable? (a b : Char) : Option Char :=
  let isInitial := firstInitial ≤ a.toNat && a.toNat < firstInitial + 19
  let isMedial := firstMedial ≤ b.toNat && b.toNat < firstMedial + 21
  let i := a.toNat - firstSyllable
  let isOpen := firstSyllable ≤ a.toNat && i < 19 * 21 * 28 && i % 28 = 0
  let isFinal := noFinal < b.toNat && b.toNat < noFinal + 28
  if isInitial && isMedial then
    some (.ofNat (firstSyllable + ((a.toNat - firstInitial) * 21 + (b.toNat - firstMedial)) * 28))
  else if isOpen && isFinal then some (.ofNat (a.toNat + (b.toNat - noFinal)))
  else none

/-! ## Taking apart -/

/-- A character in its parts, taken apart `depth` times. -/
def decomposeTo : (depth : Nat) → Char → List Char
  | 0, c => [c]
  | depth + 1, c =>
      match syllableLetters? c with
      | some letters => letters
      | none =>
          match composedMap.target? c with
          | some parts => parts.flatMap (decomposeTo depth)
          | none => (spellingMap.target? c).getD [c]

/-- A character in all its parts. A base with three marks is the longest. -/
def decompose (c : Char) : List Char := if c.toNat < 0xC0 then [c] else decomposeTo 4 c

/-- Puts a character in front of others, marks of a lower class excepted. -/
def insertMark (c : Char) : List Char → List Char
  | [] => [c]
  | d :: ds =>
      if combiningClass d ≠ 0 && combiningClass d < combiningClass c then d :: insertMark c ds
      else c :: d :: ds

/-- The marks between two bases by their classes. -/
def orderMarks (cs : List Char) : List Char := cs.foldr insertMark []

/-! ## Composing -/

/-- The character that stands for a pair. -/
def compose? (a b : Char) : Option Char :=
  (syllable? a b).or ((composedPairs.find? (·.1 = (a, b))).map Prod.snd)

/-- A text composed as far as it was read. -/
structure Composing where
  /-- What does not change any more. -/
  done : List Char := []
  base : Option Char := none
  /-- What stands behind the base. -/
  marks : List Char := []

/-- Takes one more character. It joins the base unless a mark in between has its
class or a higher one. -/
def Composing.take (s : Composing) (c : Char) : Composing :=
  match s.base with
  | none => if combiningClass c = 0 then { s with base := some c } else { s with done := s.done ++ [c] }
  | some base =>
      let isBlocked := s.marks.getLast?.any fun m => combiningClass c ≤ combiningClass m
      match if isBlocked then none else compose? base c with
      | some composed => { s with base := some composed }
      | none =>
          if combiningClass c = 0 then ⟨s.done ++ base :: s.marks, some c, []⟩
          else { s with marks := s.marks ++ [c] }

def Composing.text (s : Composing) : List Char := s.done ++ s.base.toList ++ s.marks

/-- The composed form of a text. -/
def composed (cs : List Char) : List Char :=
  ((orderMarks (cs.flatMap decompose)).foldl Composing.take {}).text

end SymbolIndex.Text
