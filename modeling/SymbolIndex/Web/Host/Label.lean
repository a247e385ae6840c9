-- SUMMARY: Labels of host names: which ones are allowed, and their form in ASCII.
import SymbolIndex.Text.Lines
import SymbolIndex.Text.Names
import SymbolIndex.Web.Host.Folding
import SymbolIndex.Web.Host.Punycode
import SymbolIndex.Web.Host.ScriptTable

/-! # Labels

A host name consists of labels between dots. A label outside ASCII has a form
in ASCII, which is marked in front. Labels must read the same in every
surrounding: joiners stand only where scripts need them, and directions do not
mix. -/

namespace SymbolIndex.Host

/-! ## Joiners -/

def nonJoiner : Char := '\u200C'

def joiner : Char := '\u200D'

/-- The combining class of marks that silence the vowel of a letter. -/
def viramaClass : Nat := 9

/-- The letters around a place would join if nothing stood there. `before` is in
reverse. -/
def joinsAcross (before after : List Char) : Bool :=
  let letter? (cs : List Char) := (cs.dropWhile (joining · = .transparent)).head?.map joining
  let toNext := letter? before = some .toNext || letter? before = some .both
  toNext && (letter? after = some .toPrevious || letter? after = some .both)

/-- Every joiner stands behind a silent letter, or is a non-joiner between
letters that would join. `before` is in reverse. -/
def allowsJoiners (before : List Char) : List Char → Bool
  | [] => true
  | c :: cs =>
      let isSilent := before.head?.any fun b => Text.combiningClass b = viramaClass
      let isFine := (c ≠ nonJoiner && c ≠ joiner) || isSilent ||
        (c = nonJoiner && joinsAcross before cs)
      isFine && allowsJoiners (c :: before) cs

/-! ## Directions -/

/-- The label has a letter or a digit of a script that is written from right to
left. -/
def isFromRight (label : List Char) : Bool :=
  label.any fun c => direction c = .rightToLeft || direction c = .arabicNumber

/-- The direction at the end of a label, marks aside. -/
def lastDirection? (ds : List Direction) : Option Direction :=
  ds.reverse.find? (· ≠ .mark)

/-- Directions do not mix in the label: it starts with a letter, ends with a
letter or digit of the same direction, and has nothing of the other one in
between. -/
def keepsDirection (label : List Char) : Bool :=
  let ds := label.map direction
  match ds with
  | [] => true
  | .leftToRight :: _ =>
      let isInside := ds.all fun d => [.leftToRight, .number, .neutral, .mark].contains d
      let ends := (lastDirection? ds).any fun d => [.leftToRight, .number].contains d
      isInside && ends
  | .rightToLeft :: _ =>
      let isInside := ds.all fun d => d ≠ .leftToRight && d ≠ .separator
      let ends := (lastDirection? ds).any fun d =>
        [.rightToLeft, .number, .arabicNumber].contains d
      isInside && ends && !(ds.contains .number && ds.contains .arabicNumber)
  | _ => false

/-! ## Labels -/

/-- In front of a label in ASCII that stands for another one. -/
def asciiMark : List Char := "xn--".toList

def isAscii (label : List Char) : Bool := label.all (·.toNat < 128)

/-- Longest label that is put into ASCII, and longest text that is read as
one. -/
def labelLimit : Nat := 1000

def asciiLimit : Nat := 2000

/-- The label that a marked one stands for. It is in folded form and could not
have been written without the mark. -/
def unmarked? (text : List Char) : Option (List Char) := do
  if asciiLimit < text.length then none
  let label ← Punycode.decode? text
  if isAscii label || asciiMark.isPrefixOf label || fold? label ≠ some label then none
  return label

/-- The label that a folded one stands for, if it is allowed. -/
def readLabel? (folded : List Char) : Option (List Char) := do
  let label ← match Text.stripFront? asciiMark folded with
    | some text => unmarked? text
    | none => some folded
  if label.head?.any marks.contains || !allowsJoiners [] label then none
  return label

/-- A label in ASCII. -/
def asciiLabel? (label : List Char) : Option (List Char) :=
  if isAscii label then some label
  else if labelLimit < label.length then none
  else some (asciiMark ++ Punycode.encode label)

/-- The name in ASCII that a text of any characters stands for. If any label is
written from right to left, no label may mix directions. -/
def foldedName? (cs : List Char) : Option (List Char) := do
  let folded ← fold? cs
  let labels ← (Text.splitAt '.' folded).mapM readLabel?
  if labels.any isFromRight && !labels.all keepsDirection then none
  return ['.'].intercalate (← labels.mapM asciiLabel?)

/-- A small letter of ASCII, a digit, or a dot: a name of these alone is in its
form already. -/
def isSettled (c : Char) : Bool := ('a' ≤ c && c ≤ 'z') || c.isDigit || c = '.'

/-- The name in ASCII that a text stands for. -/
def asciiName? (cs : List Char) : Option (List Char) :=
  if cs.all isSettled then some cs else foldedName? cs

end SymbolIndex.Host
