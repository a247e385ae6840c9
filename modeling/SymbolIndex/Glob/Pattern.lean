-- SUMMARY: Shell patterns for one path component: reading them and matching names.

/-! # Component patterns

A pattern for file arguments has one part per path component. `?` stands for a
character, `*` for any characters, `[a-z]` and `[!a-z]` for a character in or
outside some ranges, and the component `**` for any number of directories. -/

namespace SymbolIndex.Glob

/-! ## Syntax -/

inductive Token where
  | char (c : Char)
  | anyChar
  | anySequence
  /-- `**` -/
  | anyDirectories
  /-- One character inside the ranges, or outside them if `negated`. -/
  | ranges (negated : Bool) (ranges : List (Char × Char))
  deriving DecidableEq, Repr

abbrev Pattern := List Token

inductive PatternProblem where
  | tooManyStars
  | partialDirectories
  | badRange
  deriving DecidableEq, Repr

/-- A problem and the number of characters before its place. -/
structure PatternError where
  position : Nat
  problem : PatternProblem
  deriving DecidableEq, Repr

def PatternProblem.message : PatternProblem → String
  | tooManyStars => "wildcards are either regular `*` or recursive `**`"
  | partialDirectories => "recursive wildcards must form a single path component"
  | badRange => "invalid range pattern"

def PatternError.message (e : PatternError) : String :=
  "Pattern syntax error near position " ++ toString e.position ++ ": " ++ e.problem.message

/-- The ranges between brackets; a dash between two characters makes a range. -/
def readRanges : List Char → List (Char × Char)
  | a :: '-' :: b :: rest => (a, b) :: readRanges rest
  | a :: rest => (a, a) :: readRanges rest
  | [] => []

/-- Reads what follows `[`. The first character of the ranges may be `]`. Gives
the token, the number of characters read, and the rest. -/
def readBrackets (cs : List Char) : Option (Token × Nat × List Char) :=
  let (negated, body) :=
    match cs with
    | '!' :: body => (true, body)
    | body => (false, body)
  match body with
  | [] => none
  | first :: more =>
      match more.dropWhile (· ≠ ']') with
      | [] => none
      | _ :: rest =>
          let inner := first :: more.takeWhile (· ≠ ']')
          some (.ranges negated (readRanges inner), cs.length - rest.length, rest)

/-- Reads a pattern from the given position on; `before` is the character in
front of it. -/
def readFrom (fuel position : Nat) (before : Option Char) (cs : List Char) :
    Except PatternError Pattern :=
  match fuel, cs with
  | _, [] => .ok []
  | 0, _ => .ok []
  | fuel + 1, c :: rest =>
      if c = '?' then do .ok (.anyChar :: (← readFrom fuel (position + 1) (some c) rest))
      else if c = '*' then
        let count := 1 + (rest.takeWhile (· = '*')).length
        let rest := rest.dropWhile (· = '*')
        if 2 < count then .error ⟨position + 2, .tooManyStars⟩
        else if count = 1 then do
          .ok (.anySequence :: (← readFrom fuel (position + 1) (some c) rest))
        else if before ≠ none ∧ before ≠ some '/' then
          .error ⟨position - 1, .partialDirectories⟩
        else
          match rest with
          | [] => .ok [.anyDirectories]
          | '/' :: rest => do
              .ok (.anyDirectories :: (← readFrom fuel (position + 3) (some '/') rest))
          | _ => .error ⟨position + 2, .partialDirectories⟩
      else if c = '[' then
        match readBrackets rest with
        | none => .error ⟨position, .badRange⟩
        | some (token, read, rest) => do
            .ok (token :: (← readFrom fuel (position + 1 + read) (some ']') rest))
      else do .ok (.char c :: (← readFrom fuel (position + 1) (some c) rest))

def Pattern.ofChars (cs : List Char) : Except PatternError Pattern :=
  readFrom cs.length 0 none cs

/-! ## Matching -/

def inRanges (c : Char) (ranges : List (Char × Char)) : Bool :=
  ranges.any fun (first, last) => first ≤ c && c ≤ last

/-- The character fits a token for one character. -/
def Token.accepts (c : Char) : Token → Bool
  | char d => c = d
  | anyChar => true
  | ranges negated rs => inRanges c rs != negated
  | anySequence => false
  | anyDirectories => false

/-- The name as a whole fits the pattern. -/
def Pattern.accepts : Pattern → List Char → Bool
  | [], cs => cs.isEmpty
  | .anySequence :: tokens, [] => accepts tokens []
  | .anySequence :: tokens, c :: cs => accepts tokens (c :: cs) || accepts (.anySequence :: tokens) cs
  | _ :: _, [] => false
  | token :: tokens, c :: cs => token.accepts c && accepts tokens cs
termination_by tokens cs => tokens.length + cs.length

/-- The text of a pattern without wildcards. -/
def Pattern.literal? (p : Pattern) : Option (List Char) :=
  p.mapM fun
    | .char c => some c
    | _ => none

def Pattern.isRecursive (p : Pattern) : Bool := p.contains .anyDirectories

end SymbolIndex.Glob
