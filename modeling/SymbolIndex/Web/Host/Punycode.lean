-- SUMMARY: Punycode: labels of host names in ASCII.
import SymbolIndex.Text.Distinct

/-! # Punycode

A label is written as its ASCII characters followed by digits, which say in
ascending order of the other characters where each is inserted. A number is
written with its lowest digit first. Where a number ends depends on a bias that
follows the sizes of the numbers before it. -/

namespace SymbolIndex.Host.Punycode

/-! ## Digits -/

/-- The letters are the digits from 0 to 25, the decimal digits those from 26 to
35. -/
def digit (n : Nat) : Char := .ofNat (if n < 26 then 97 + n else 22 + n)

def digitValue? (c : Char) : Option Nat :=
  if 'a' ≤ c && c ≤ 'z' then some (c.toNat - 97)
  else if 'A' ≤ c && c ≤ 'Z' then some (c.toNat - 65)
  else if '0' ≤ c && c ≤ '9' then some (c.toNat - 22)
  else none

/-- A digit is read as it was written. -/
theorem digitValue?_digit {n : Nat} (h : n < 36) : digitValue? (digit n) = some n := by
  have all : ∀ m ∈ List.range 36, digitValue? (digit m) = some m := by decide
  exact all n (List.mem_range.mpr h)

/-- Below this the digit at a place ends its number. Places are multiples of
36. -/
def threshold (place bias : Nat) : Nat := max 1 (min 26 (place - bias))

theorem threshold_pos (place bias : Nat) : 0 < threshold place bias := by
  simp only [threshold]; omega

theorem threshold_le (place bias : Nat) : threshold place bias ≤ 26 := by
  simp only [threshold]; omega

/-- Brings a number down, and counts 36 for each division. -/
def scaleDown (n : Nat) : Nat × Nat :=
  if 455 < n then
    let (m, k) := scaleDown (n / 35)
    (m, k + 36)
  else (n, 0)
termination_by n
decreasing_by exact Nat.div_lt_self (by omega) (by omega)

/-- The bias behind a number, when `count` characters are in place. -/
def nextBias (number count : Nat) (isFirst : Bool) : Nat :=
  let n := if isFirst then number / 700 else number / 2
  let (m, k) := scaleDown (n + n / count)
  k + 36 * m / (m + 38)

/-! ## Numbers -/

/-- A number from the given place on. -/
def writeNumber (bias place n : Nat) : List Char :=
  let t := threshold place bias
  if n < t then [digit n]
  else digit (t + (n - t) % (36 - t)) :: writeNumber bias (place + 36) ((n - t) / (36 - t))
termination_by n
decreasing_by
  have low := threshold_pos place bias
  have high := threshold_le place bias
  exact Nat.lt_of_le_of_lt (Nat.div_le_self _ _) (by omega)

/-- Reads a number from the given place on, whose digits count `weight` times.
Gives the number and what follows it. -/
def readNumber? (bias place weight : Nat) : List Char → Option (Nat × List Char)
  | [] => none
  | c :: cs => do
      let d ← digitValue? c
      let t := threshold place bias
      if d < t then return (d * weight, cs)
      let (n, rest) ← readNumber? bias (place + 36) (weight * (36 - t)) cs
      return (d * weight + n, rest)

/-- A number takes up some of the text. -/
theorem readNumber?_length_lt {bias place weight : Nat} {cs : List Char} {r : Nat × List Char}
    (h : readNumber? bias place weight cs = some r) : r.2.length < cs.length := by
  induction cs generalizing place weight r with
  | nil => simp [readNumber?] at h
  | cons c cs ih =>
      simp only [readNumber?, Option.bind_eq_bind, Option.bind_eq_some_iff] at h
      obtain ⟨d, _, h⟩ := h
      split at h
      · simp only [pure, Option.some.injEq] at h
        simp [← h]
      · obtain ⟨r', h', h⟩ := Option.bind_eq_some_iff.mp h
        simp only [pure, Option.some.injEq] at h
        have := ih h'
        simp only [← h, List.length_cons]
        omega

/-! ## Writing -/

structure Writing where
  text : List Char
  /-- Insertions that were passed over since the last number. -/
  skipped : Nat := 0
  bias : Nat := 72
  /-- Characters in place. -/
  count : Nat
  isFirst : Bool := true

/-- Passes a character of the label, or notes that the one with the code point
`n` is inserted here. -/
def Writing.pass (n : Nat) (s : Writing) (c : Char) : Writing :=
  if c.toNat < n then { s with skipped := s.skipped + 1 }
  else if c.toNat = n then
    { text := s.text ++ writeNumber s.bias 36 s.skipped
      bias := nextBias s.skipped (s.count + 1) s.isFirst
      count := s.count + 1, isFirst := false }
  else s

/-- Inserts the characters with the given code points, all of them above those
in place, `last` being the one before them. -/
def Writing.insertAll (label : List Char) (s : Writing) (last : Nat) : List Nat → Writing
  | [] => s
  | n :: ns =>
      let s := { s with skipped := s.skipped + (n - last) * (s.count + 1) }
      let s := label.foldl (Writing.pass n) s
      insertAll label { s with skipped := s.skipped + 1 } (n + 1) ns

/-- A label in ASCII. -/
def encode (label : List Char) : List Char :=
  let plain := label.filter (·.toNat < 128)
  let others := (label.filter (128 ≤ ·.toNat)).map Char.toNat
  let points := (Text.firsts others).mergeSort (· ≤ ·)
  let text := if plain.isEmpty then [] else plain ++ ['-']
  (Writing.insertAll label { text, count := plain.length } 128 points).text

/-! ## Reading -/

/-- Inserts characters into a label as the digits say. `point` is the code point
to insert at `position`, before the next number is added. -/
def insertFrom? (bias point position : Nat) (label : List Char) (isFirst : Bool) (cs : List Char) :
    Option (List Char) :=
  if cs = [] then some label
  else
    match h : readNumber? bias 36 1 cs with
    | none => none
    | some (n, rest) =>
        let count := label.length + 1
        let point := point + (position + n) / count
        let position := (position + n) % count
        if point.isValidChar then
          insertFrom? (nextBias n count isFirst) point (position + 1)
            (label.insertIdx position (.ofNat point)) false rest
        else none
termination_by cs.length
decreasing_by exact readNumber?_length_lt h

/-- The label that a text in ASCII stands for. ASCII characters end with the
last dash. -/
def decode? (cs : List Char) : Option (List Char) :=
  if '-' ∈ cs then
    let digits := (cs.reverse.takeWhile (· ≠ '-')).reverse
    let plain := cs.take (cs.length - digits.length - 1)
    if plain.isEmpty then none else insertFrom? 72 128 0 plain true digits
  else insertFrom? 72 128 0 [] true cs

end SymbolIndex.Host.Punycode
