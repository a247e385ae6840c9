-- SUMMARY: Hosts that are numbers: reading them leniently, and writing them in one way.
import SymbolIndex.Text.CodeTable

/-! # Numeric hosts

A host that ends in a number is four bytes between dots, of which the last one
may fill several places. A host in brackets is eight groups of 16 bits, a run of
which may be left out if they are zero. -/

namespace SymbolIndex.Host

/-! ## Bytes between dots -/

/-- A part of a numeric host: hexadecimal with `0x` in front, octal with `0`,
else decimal. -/
def partNumber? : List Char → Option Nat
  | [] => none
  | '0' :: x :: rest =>
      if x = 'x' || x = 'X' then Text.digits? 16 rest else Text.digits? 8 (x :: rest)
  | cs => Text.digits? 10 cs

/-- The parts between the dots; a dot at the end begins no further part. -/
def dottedParts (cs : List Char) : List (List Char) :=
  let parts := Text.splitAt '.' cs
  if parts.getLast? = some [] && 1 < parts.length then parts.dropLast else parts

/-- The last part of the host is a number. -/
def endsInNumber (cs : List Char) : Bool :=
  match (dottedParts cs).getLast? with
  | some last => (!last.isEmpty && last.all Char.isDigit) || (partNumber? last).isSome
  | none => false

/-- A numeric host as four numbers. Its last part fills all places that are
left. -/
def dotted? (cs : List Char) : Option String := do
  let numbers ← (dottedParts cs).mapM partNumber?
  let last ← numbers.getLast?
  let front := numbers.dropLast
  if 4 < numbers.length ∨ front.any (255 < ·) ∨ Nat.pow 256 (5 - numbers.length) ≤ last then none
  else
    let places := (List.range (5 - numbers.length)).reverse.map fun i => last / Nat.pow 256 i % 256
    some (".".intercalate ((front ++ places).map toString))

/-! ## Groups in brackets -/

/-- Four decimal numbers between dots, without zeros in front, as two groups. -/
def dottedGroups? (cs : List Char) : Option (List Nat) := do
  let byte? (part : List Char) : Option Nat :=
    if part.isEmpty || (1 < part.length && part.head? = some '0') then none
    else (Text.digits? 10 part).filter (· ≤ 255)
  match ← (Text.splitAt '.' cs).mapM byte? with
  | [a, b, c, d] => some [a * 256 + b, c * 256 + d]
  | _ => none

/-- One to four hexadecimal digits. -/
def group? (cs : List Char) : Option Nat :=
  if cs.isEmpty || 4 < cs.length then none else Text.digits? 16 cs

/-- The groups between colons. At the end of an address two of them may be
written as four bytes. -/
def groups? (isEnd : Bool) (cs : List Char) : Option (List Nat) :=
  if cs.isEmpty then some []
  else
    let parts := Text.splitAt ':' cs
    let last := parts.getLast?.getD []
    if isEnd && last.contains '.' then do
      let front ← parts.dropLast.mapM group?
      return front ++ (← dottedGroups? last)
    else parts.mapM group?

/-- What stands before and behind the first `::`. -/
def splitGap? : List Char → Option (List Char × List Char)
  | [] => none
  | c :: cs =>
      if c = ':' && cs.head? = some ':' then some ([], cs.drop 1)
      else (splitGap? cs).map fun (front, back) => (c :: front, back)

/-- The eight groups of an address. `::` stands for one zero or more. -/
def eightGroups? (cs : List Char) : Option (List Nat) := do
  match splitGap? cs with
  | none =>
      let groups ← groups? true cs
      if groups.length = 8 then some groups else none
  | some (front, back) =>
      let front ← groups? false front
      let back ← groups? true back
      let missing := 8 - (front.length + back.length)
      if missing = 0 then none else some (front ++ List.replicate missing 0 ++ back)

/-- The number of zeros in front. -/
def leadingZeros (groups : List Nat) : Nat := (groups.takeWhile (· = 0)).length

/-- Where the longest run of zeros starts, the first one of several, and its
length. -/
def longestGap (groups : List Nat) : Nat × Nat :=
  (List.range groups.length).foldl (fun best i =>
    let n := leadingZeros (groups.drop i)
    if best.2 < n then (i, n) else best) (0, 0)

def writeGroups (groups : List Nat) : List Char :=
  [':'].intercalate (groups.map (Nat.toDigits 16))

/-- An address with its longest run of zeros left out, if there are two of them
or more. -/
def writeEight (groups : List Nat) : List Char :=
  let (start, length) := longestGap groups
  if length < 2 then writeGroups groups
  else writeGroups (groups.take start) ++ "::".toList ++ writeGroups (groups.drop (start + length))

/-- The normal form of an address between brackets. -/
def bracketed? (cs : List Char) : Option String :=
  (eightGroups? cs).map fun groups => .ofList (['['] ++ writeEight groups ++ [']'])

end SymbolIndex.Host
