-- SUMMARY: Passing over a JSON value without keeping it.
import SymbolIndex.Json.Lexical

/-! # Skipping values

The value of a field that nobody asked for is passed over. Its nesting is kept
on a stack of open brackets, so it may be as deep as it likes, and its numbers
and escapes are not looked into. -/

namespace SymbolIndex.Json

/-! ## Scalars -/

def skipDigits (bs : Bytes) : Bytes := bs.dropWhile isDigit

/-- Passes over what follows the `e` of a number. -/
def skipExponent (bs : Bytes) : Except Fault Bytes :=
  let bs :=
    match bs with
    | b :: rest => if b = byte '+' || b = byte '-' then rest else bs
    | [] => []
  match bs with
  | [] => .error (.here .badNumber [])
  | b :: rest => if isDigit b then .ok (skipDigits rest) else .error (.here .badNumber rest)

/-- Passes over what follows the point of a number. -/
def skipFraction (bs : Bytes) : Except Fault Bytes :=
  if !startsWithDigit bs then .error (.next .badNumber bs)
  else
    match skipDigits bs with
    | b :: rest => if startsExponent b then skipExponent rest else .ok (b :: rest)
    | [] => .ok []

def skipNumberTail : Bytes → Except Fault Bytes
  | b :: rest =>
      if b = byte '.' then skipFraction rest
      else if startsExponent b then skipExponent rest
      else .ok (b :: rest)
  | [] => .ok []

/-- Passes over a number whose sign has been read. -/
def skipNumber : Bytes → Except Fault Bytes
  | [] => .error (.here .badNumber [])
  | b :: rest =>
      if b = byte '0' then
        if startsWithDigit rest then .error (.next .badNumber rest) else skipNumberTail rest
      else if isDigit b then skipNumberTail (skipDigits rest)
      else .error (.here .badNumber rest)

/-- Passes over what follows a backslash. -/
def skipEscape : Bytes → Except Fault Bytes
  | [] => .error (.here .endInString [])
  | b :: rest =>
      if (shortEscape? b).isSome then .ok rest
      else if b = byte 'u' then (fourHex rest).map Prod.snd
      else .error (.here .badEscape rest)

/-- Passes over a string whose first quote has been read. -/
def skipStringFrom : (fuel : Nat) → Bytes → Except Fault Bytes
  | 0, bs => .error (.here .endInString bs)
  | fuel + 1, bs =>
      match bs.dropWhile isPlain with
      | [] => .error (.here .endInString [])
      | b :: rest =>
          if b = byte '"' then .ok rest
          else if b = byte '\\' then do skipStringFrom fuel (← skipEscape rest)
          else .error (.here .controlCharacter (b :: rest))

def skipString (bs : Bytes) : Except Fault Bytes := skipStringFrom (bs.length + 1) bs

/-! ## Nesting -/

inductive Bracket where
  | list
  | object
  deriving DecidableEq, Repr

/-- The byte that closes a bracket. -/
def Bracket.closing : Bracket → UInt8
  | list => byte ']'
  | object => byte '\x7d'

/-- Passes over a scalar, or opens a bracket. -/
def skipOpening (bs : Bytes) : Except Fault (Option Bracket × Bytes) :=
  match bs with
  | [] => .error (.next .endInValue [])
  | b :: rest =>
      if b = byte 'n' then (word ("ull".toList.map byte) rest).map (none, ·)
      else if b = byte 't' then (word ("rue".toList.map byte) rest).map (none, ·)
      else if b = byte 'f' then (word ("alse".toList.map byte) rest).map (none, ·)
      else if b = byte '-' then (skipNumber rest).map (none, ·)
      else if isDigit b then (skipNumber bs).map (none, ·)
      else if b = byte '"' then (skipString rest).map (none, ·)
      else if b = byte '[' then .ok (some .list, rest)
      else if b = byte '\x7b' then .ok (some .object, rest)
      else .error (.next .expectedValue bs)

/-- Passes over closing brackets and a comma up to the next item. `afterItem`
says that an item of the innermost bracket is behind. Gives the brackets that
are still open; none at all if the value has ended. -/
def skipClosings : (fuel : Nat) → (afterItem : Bool) → List Bracket → Bytes →
    Except Fault (List Bracket × Bytes)
  | 0, _, _, bs => .error (.here .endInValue bs)
  | _, _, [], bs => .ok ([], bs)
  | fuel + 1, afterItem, bracket :: above, bs =>
      match skipBlanks bs with
      | [] =>
          .error (.next (match bracket with
            | .list => .endInList
            | .object => .endInObject) [])
      | b :: rest =>
          if b = byte ',' && afterItem then .ok (bracket :: above, rest)
          else if b = bracket.closing then skipClosings fuel true above rest
          else if afterItem then
            .error (.next (match bracket with
              | .list => .expectedListEnd
              | .object => .expectedObjectEnd) (b :: rest))
          else .ok (bracket :: above, b :: rest)

/-- Passes over the key of a member and the colon behind it. -/
def skipKey (bs : Bytes) : Except Fault Bytes :=
  match skipBlanks bs with
  | [] => .error (.next .endInObject [])
  | b :: rest =>
      if b ≠ byte '"' then .error (.next .keyNotText (b :: rest))
      else do
        match skipBlanks (← skipString rest) with
        | [] => .error (.next .endInObject [])
        | b :: rest =>
            if b = byte ':' then .ok rest else .error (.next .expectedColon (b :: rest))

/-- Passes over a value inside the given brackets and then over whatever is left
of these. -/
def skipInside : (fuel : Nat) → List Bracket → Bytes → Except Fault Bytes
  | 0, _, bs => .error (.here .endInValue bs)
  | fuel + 1, around, bs => do
      let (opened, rest) ← skipOpening (skipBlanks bs)
      let (still, rest) ←
        skipClosings (bs.length + 2) opened.isNone (opened.toList ++ around) rest
      match still with
      | [] => .ok rest
      | .list :: _ => skipInside fuel still rest
      | .object :: _ => do skipInside fuel still (← skipKey rest)

/-- Passes over one value. -/
def skipValue (bs : Bytes) : Except Fault Bytes := skipInside (bs.length + 1) [] bs

end SymbolIndex.Json
