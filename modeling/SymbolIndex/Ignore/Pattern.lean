-- SUMMARY: The patterns of ignore files: reading them and matching relative paths.
import SymbolIndex.Text.Distinct
import SymbolIndex.Text.Names
import SymbolIndex.Text.Utf8

/-! # Ignore patterns

A pattern is matched against the bytes of a relative path. `?` and `*` stay
within a component; `**` between slashes stands for any number of components;
brackets stand for one byte and braces for one of several patterns. -/

namespace SymbolIndex.Ignore

/-! ## Syntax -/

inductive Token where
  | literal (c : Char)
  /-- `?` -/
  | any
  /-- `*` -/
  | star
  /-- `**/` at the front. -/
  | deepFront
  /-- `/**` at the end. -/
  | deepBack
  /-- `/**/` in the middle. -/
  | deepBetween
  | brackets (negated : Bool) (ranges : List (Char × Char))
  | braces (branches : List (List Token))
  deriving Repr

abbrev Pattern := List Token

inductive PatternProblem where
  | badRange (first last : Char)
  | unopenedBraces
  | unclosedBraces
  | danglingEscape
  deriving DecidableEq, Repr

def PatternProblem.message : PatternProblem → String
  | badRange first last =>
      "invalid range; '" ++ first.toString ++ "' > '" ++ last.toString ++ "'"
  | unopenedBraces =>
      "unopened alternate group; missing '\x7b' (maybe escape '\x7d' with '[\x7d]'?)"
  | unclosedBraces =>
      "unclosed alternate group; missing '\x7d' (maybe escape '\x7b' with '[\x7b]'?)"
  | danglingEscape => "dangling '\\'"

/-! ## Brackets -/

/-- Ends the newest range, which comes first, at `last`. -/
def endRange (last : Char) : List (Char × Char) → Except PatternProblem (List (Char × Char))
  | (first, _) :: rs =>
      if last < first then .error (.badRange first last) else .ok ((first, last) :: rs)
  | [] => .ok []

/-- Reads ranges up to the closing bracket; `none` if there is none. A bracket
or a dash in front stands for itself, and so does a dash at the end. -/
def readRanges : (first inRange : Bool) → List (Char × Char) → List Char →
    Except PatternProblem (Option (List (Char × Char) × List Char))
  | _, _, _, [] => .ok none
  | first, inRange, rs, c :: cs =>
      if c = ']' && !first then
        .ok (some ((if inRange then ('-', '-') :: rs else rs).reverse, cs))
      else if c = '-' && !first && !inRange then readRanges false true rs cs
      else if inRange then do readRanges false false (← endRange c rs) cs
      else readRanges false false ((c, c) :: rs) cs

/-- Reads what follows an opening bracket. -/
def readBrackets (cs : List Char) : Except PatternProblem (Option (Token × List Char)) :=
  let (negated, body) :=
    match cs with
    | c :: body => if c = '!' || c = '^' then (true, body) else (false, cs)
    | [] => (false, [])
  (readRanges true false [] body).map fun found =>
    found.map fun (ranges, rest) => (.brackets negated ranges, rest)

/-! ## Reading -/

/-- Braces that are still open: the finished branches and the tokens of the
unfinished one, each with the newest first. -/
structure Frame where
  finished : List Pattern := []
  current : Pattern := []
  deriving Repr

structure ReadState where
  /-- The innermost frame. -/
  top : Frame := {}
  outer : List Frame := []
  /-- The character before the next one. -/
  before : Option Char := none
  /-- A bracket was not closed; from then on brackets stand for themselves. -/
  plainBrackets : Bool := false
  deriving Repr

namespace ReadState

def push (s : ReadState) (t : Token) : ReadState :=
  { s with top := { s.top with current := t :: s.top.current } }

/-- Puts `t` in the place of the newest token, unless that one already stands
for any number of components. -/
def replaceNewest (s : ReadState) (t : Token) : ReadState :=
  match s.top.current with
  | .deepFront :: _ => s
  | .deepBack :: _ => s
  | _ :: ts => { s with top := { s.top with current := t :: ts } }
  | [] => s.push t

def openBraces (s : ReadState) : ReadState := { s with top := {}, outer := s.top :: s.outer }

def nextBranch (s : ReadState) : ReadState :=
  { s with top := { finished := s.top.current.reverse :: s.top.finished } }

def closeBraces (s : ReadState) : Except PatternProblem ReadState :=
  match s.outer with
  | [] => .error .unopenedBraces
  | frame :: outer =>
      let branches := (s.top.current.reverse :: s.top.finished).reverse
      .ok (ReadState.push { s with top := frame, outer } (.braces branches))

def inBraces (s : ReadState) : Bool := !s.outer.isEmpty

/-- Two stars here can stand for components: behind a slash, and within braces
behind a comma or an opening brace, escaped ones too. -/
def startsComponent (s : ReadState) : Bool :=
  s.before = some '/' || (s.inBraces && (s.before = some ',' || s.before = some '\x7b'))

end ReadState

/-- Reads what follows a first star, whose own `before` is still in the state.
Gives the rest and the last character read. -/
def readStars (s : ReadState) (cs : List Char) : ReadState × List Char × Char :=
  match cs with
  | '*' :: rest =>
      let twoStars := ((s.push .star).push .star, rest, '*')
      if s.top.current.isEmpty then
        match rest with
        | [] => (s.push .deepFront, [], '*')
        | '/' :: rest => (s.push .deepFront, rest, '/')
        | _ => twoStars
      else if !s.startsComponent then twoStars
      else
        match rest with
        | [] => (s.replaceNewest .deepBack, [], '*')
        | '/' :: rest => (s.replaceNewest .deepBetween, rest, '/')
        | c :: _ =>
            if (c = ',' || c = '\x7d') && s.inBraces then (s.replaceNewest .deepBack, rest, '*')
            else twoStars
  | _ => (s.push .star, cs, '*')

/-- Reads a pattern. Every step takes a character. -/
def readFrom : (fuel : Nat) → ReadState → List Char →
    Except PatternProblem Pattern
  | _, s, [] => if s.inBraces then .error .unclosedBraces else .ok s.top.current.reverse
  | 0, s, _ => .ok s.top.current.reverse
  | fuel + 1, s, c :: cs =>
      let literal := readFrom fuel { s.push (.literal c) with before := some c } cs
      if c = '?' then readFrom fuel { s.push .any with before := some c } cs
      else if c = '*' then
        let (s, rest, last) := readStars s cs
        readFrom fuel { s with before := some last } rest
      else if c = '[' && !s.plainBrackets then do
        match ← readBrackets cs with
        | some (token, rest) =>
            readFrom fuel { s.push token with before := some ']' } rest
        | none =>
            readFrom fuel
              { s.push (.literal c) with before := some c, plainBrackets := true } cs
      else if c = '\x7b' then
        readFrom fuel { s.openBraces with before := some c } cs
      else if c = '\x7d' then do
        readFrom fuel { ← s.closeBraces with before := some c } cs
      else if c = ',' && s.inBraces then
        readFrom fuel { s.nextBranch with before := some c } cs
      else if c = '\\' then
        match cs with
        | [] => .error .danglingEscape
        | d :: cs => readFrom fuel { s.push (.literal d) with before := some d } cs
      else literal

/-- The pattern that a text stands for. -/
def Pattern.ofText (text : String) : Except PatternProblem Pattern :=
  readFrom text.toList.length {} text.toList

/-! ## Matching -/

def slash : UInt8 := 47

def utf8 (c : Char) : Bytes := Utf8.encode (.singleton c)

/-- The ranges of bytes that a range of characters stands for: the bytes of its
ends, and everything between the last byte of the one and the first byte of the
other. -/
def byteRanges (range : Char × Char) : List (UInt8 × UInt8) :=
  let (first, last) := range
  if first = last then (utf8 first).map fun b => (b, b)
  else
    let low := utf8 first
    let high := utf8 last
    (low.dropLast ++ high.drop 1).map (fun b => (b, b)) ++
      [(low.getLast?.getD 0, high.head?.getD 0)]

def inBrackets (b : UInt8) (ranges : List (Char × Char)) : Bool :=
  (ranges.flatMap byteRanges).any fun (low, high) => low ≤ b && b ≤ high

/-- What is left after each number of bytes taken from the front. -/
def suffixes : Bytes → List Bytes
  | [] => [[]]
  | b :: bs => (b :: bs) :: suffixes bs

/-- What is left after each number of bytes within the first component. -/
def suffixesWithin : Bytes → List Bytes
  | [] => [[]]
  | b :: bs => if b = slash then [b :: bs] else (b :: bs) :: suffixesWithin bs

/-- What is left behind each slash. -/
def behindSlashes : Bytes → List Bytes
  | [] => []
  | b :: bs => if b = slash then bs :: behindSlashes bs else behindSlashes bs

mutual

/-- The token stands for nothing at all: braces around nothing. -/
def isVoid : Token → Bool
  | .braces branches => areVoid branches
  | _ => false

def allVoid : List Token → Bool
  | [] => true
  | t :: ts => isVoid t && allVoid ts

def areVoid : List (List Token) → Bool
  | [] => true
  | b :: bs => allVoid b && areVoid bs

end

mutual

/-- What a token can leave of a text. -/
def rests : Token → Bytes → List Bytes
  | .literal c, bs => (Text.stripFront? (utf8 c) bs).toList
  | .any, bs =>
      match bs with
      | b :: rest => if b = slash then [] else [rest]
      | [] => []
  | .star, bs => suffixesWithin bs
  | .deepFront, bs => bs :: behindSlashes bs
  | .deepBack, bs =>
      match bs with
      | b :: rest => if b = slash then suffixes rest else []
      | [] => []
  | .deepBetween, bs =>
      match bs with
      | b :: rest => if b = slash then rest :: behindSlashes rest else []
      | [] => []
  | .brackets negated ranges, bs =>
      match bs with
      | b :: rest => if inBrackets b ranges != negated then [rest] else []
      | [] => []
  | .braces branches, bs => if areVoid branches then [bs] else restsOfBranches branches bs

/-- What a sequence of tokens can leave of any of some texts. -/
def restsOfAll : List Token → List Bytes → List Bytes
  | [], texts => texts
  | t :: ts, texts => restsOfAll ts (Text.firsts (texts.flatMap fun bs => rests t bs))

/-- Branches that stand for nothing are left out. -/
def restsOfBranches : List (List Token) → Bytes → List Bytes
  | [], _ => []
  | ts :: branches, bs =>
      (if allVoid ts then [] else restsOfAll ts [bs]) ++ restsOfBranches branches bs

end

/-- The whole path matches. -/
def Pattern.accepts (p : Pattern) (path : Bytes) : Bool :=
  match p with
  | [.deepFront] => true
  | _ => (restsOfAll p [path]).contains []

end SymbolIndex.Ignore
