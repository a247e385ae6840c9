-- SUMMARY: Wildcard patterns over bytes: reading them and matching whole names and paths.
import SymbolIndex.Text.Distinct
import SymbolIndex.Text.Utf8

/-! # Wildcard patterns

A work tree matches names byte by byte. `?` and `*` stay within a component,
brackets stand for one byte that is no slash, and two stars that fill a
component stand for any number of components. A pattern with brackets that
cannot be read matches nothing. -/

namespace SymbolIndex.Repository

/-! ## Syntax -/

/-- The classes of ASCII characters that brackets can name. -/
inductive ByteClass where
  | alnum
  | alpha
  | blank
  | cntrl
  | digit
  | graph
  | lower
  | print
  | punct
  | space
  | upper
  | xdigit
  deriving DecidableEq, Repr

namespace ByteClass

def all : List (String × ByteClass) :=
  [("alnum", alnum), ("alpha", alpha), ("blank", blank), ("cntrl", cntrl), ("digit", digit),
    ("graph", graph), ("lower", lower), ("print", print), ("punct", punct), ("space", space),
    ("upper", upper), ("xdigit", xdigit)]

def ofName? (name : Bytes) : Option ByteClass :=
  (all.find? fun (s, _) => Utf8.encode s = name).map Prod.snd

/-- White space is a blank, a tab or a line break. -/
def contains (k : ByteClass) (b : UInt8) : Bool :=
  let isLower := 0x61 ≤ b && b ≤ 0x7A
  let isUpper := 0x41 ≤ b && b ≤ 0x5A
  let isDigit := 0x30 ≤ b && b ≤ 0x39
  let isGraph := 0x21 ≤ b && b ≤ 0x7E
  match k with
  | alnum => isLower || isUpper || isDigit
  | alpha => isLower || isUpper
  | blank => b = 0x20 || b = 0x09
  | cntrl => b < 0x20 || b = 0x7F
  | digit => isDigit
  | graph => isGraph
  | lower => isLower
  | print => isGraph || b = 0x20
  | punct => isGraph && !(isLower || isUpper || isDigit)
  | space => b = 0x20 || b = 0x09 || b = 0x0A || b = 0x0D
  | upper => isUpper
  | xdigit => isDigit || (0x61 ≤ b && b ≤ 0x66) || (0x41 ≤ b && b ≤ 0x46)

end ByteClass

/-- One of the things between brackets. -/
inductive BracketItem where
  | byte (b : UInt8)
  | range (first last : UInt8)
  | named (k : ByteClass)
  deriving DecidableEq, Repr

def BracketItem.contains (b : UInt8) : BracketItem → Bool
  | byte c => b = c
  | range first last => first ≤ b && b ≤ last
  | named k => k.contains b

inductive WildToken where
  | literal (b : UInt8)
  /-- `?` -/
  | any
  /-- `*` -/
  | star
  /-- `**` at the end of a path. -/
  | everything
  /-- `**/` -/
  | folders
  | brackets (negated : Bool) (items : List BracketItem)
  deriving DecidableEq, Repr

/-! ## Reading -/

def slash : UInt8 := 47

def backslash : UInt8 := 92

def asterisk : UInt8 := 42

def opening : UInt8 := 91

def closing : UInt8 := 93

def colon : UInt8 := 58

def dash : UInt8 := 45

/-- Reads a byte, or the one behind a backslash. -/
def readEscaped? : Bytes → Option (UInt8 × Bytes)
  | [] => none
  | b :: bs => if b = backslash then bs.head?.map fun c => (c, bs.drop 1) else some (b, bs)

/-- The name between `[:` and `:]`, whose opening bracket and colon are read
already, and what follows it; `none` inside if the text up to the next bracket
is no such name, and outside if there is no bracket. -/
def readClassName? (bs : Bytes) : Option (Option (Bytes × Bytes)) :=
  let name := bs.takeWhile (· ≠ closing)
  match bs.dropWhile (· ≠ closing) with
  | [] => none
  | _ :: rest => some (if name.getLast? = some colon then some (name.dropLast, rest) else none)

/-- Reads the items up to the closing bracket, which stands for itself in
front. `start` is the byte that a dash makes the start of a range. -/
def readItems? : (fuel : Nat) → (isFirst : Bool) → (start : Option UInt8) → Bytes →
    Option (List BracketItem × Bytes)
  | 0, _, _, _ => none
  | _, _, _, [] => none
  | fuel + 1, isFirst, start, b :: bs =>
      let single (c : UInt8) (rest : Bytes) : Option (List BracketItem × Bytes) :=
        (readItems? fuel false (some c) rest).map fun (items, rest) => (.byte c :: items, rest)
      if b = closing && !isFirst then some ([], bs)
      else if b = backslash then
        match bs with
        | [] => none
        | c :: rest => single c rest
      else
        match start, b = dash && bs.head? ≠ none && bs.head? ≠ some closing with
        | some first, true => do
            let (last, rest) ← readEscaped? bs
            let (items, rest) ← readItems? fuel false none rest
            return (.range first last :: items, rest)
        | _, _ =>
            if b = opening && bs.head? = some colon then do
              match ← readClassName? (bs.drop 1) with
              | none => single b bs
              | some (name, rest) =>
                  let k ← ByteClass.ofName? name
                  let (items, rest) ← readItems? fuel false none rest
                  return (.named k :: items, rest)
            else single b bs

/-- Reads what follows an opening bracket. -/
def readBrackets? (bs : Bytes) : Option (WildToken × Bytes) :=
  let negated := bs.head? = some 33 || bs.head? = some 94
  let body := if negated then bs.drop 1 else bs
  (readItems? (body.length + 1) true none body).map fun (items, rest) =>
    (.brackets negated items, rest)

/-- Reads a pattern from the given byte before it on. -/
def readWild? : (fuel : Nat) → (before : Option UInt8) → Bytes → Option (List WildToken)
  | _, _, [] => some []
  | 0, _, _ => none
  | fuel + 1, before, b :: bs =>
      if b = backslash then
        match bs with
        | [] => none
        | c :: rest => (readWild? fuel (some c) rest).map (.literal c :: ·)
      else if b = 63 then (readWild? fuel (some b) bs).map (.any :: ·)
      else if b = opening then do
        let (token, rest) ← readBrackets? bs
        return token :: (← readWild? fuel (some closing) rest)
      else if b = asterisk then
        let stars := bs.takeWhile (· = asterisk)
        let rest := bs.dropWhile (· = asterisk)
        let fills := !stars.isEmpty && (before = none || before = some slash)
        match fills, rest with
        | true, [] => some [.everything]
        | true, c :: rest =>
            if c = slash then (readWild? fuel (some slash) rest).map (.folders :: ·)
            else if c = backslash && rest.head? = some slash then
              (readWild? fuel (some asterisk) (c :: rest)).map (.everything :: ·)
            else (readWild? fuel (some asterisk) (c :: rest)).map (.star :: ·)
        | false, rest => (readWild? fuel (some asterisk) rest).map (.star :: ·)
      else (readWild? fuel (some b) bs).map (.literal b :: ·)

/-! ## Matching -/

/-- What is left after each number of bytes taken from the front. -/
def suffixes : Bytes → List Bytes
  | [] => [[]]
  | b :: bs => (b :: bs) :: suffixes bs

/-- What is left after each number of bytes within the first component. -/
def suffixesWithin : Bytes → List Bytes
  | [] => [[]]
  | b :: bs => if b = slash then [b :: bs] else (b :: bs) :: suffixesWithin bs

/-- What is left behind each slash. -/
def behindSlashes : Bytes → List Bytes
  | [] => []
  | b :: bs => if b = slash then bs :: behindSlashes bs else behindSlashes bs

/-- What a token can leave of a text. -/
def WildToken.rests : WildToken → Bytes → List Bytes
  | star, bs => suffixesWithin bs
  | everything, bs => suffixes bs
  | folders, bs => bs :: behindSlashes bs
  | _, [] => []
  | literal c, b :: bs => if b = c then [bs] else []
  | any, b :: bs => if b = slash then [] else [bs]
  | brackets negated items, b :: bs =>
      if b ≠ slash && items.any (·.contains b) != negated then [bs] else []

/-- The tokens match the whole text. -/
def acceptsWild (tokens : List WildToken) (text : Bytes) : Bool :=
  (tokens.foldl (fun texts t => Text.firsts (texts.flatMap t.rests)) [text]).contains []

/-- The pattern matches the whole text. -/
def matchesWild (pattern text : Bytes) : Bool :=
  match readWild? pattern.length none pattern with
  | some tokens => acceptsWild tokens text
  | none => false

end SymbolIndex.Repository
