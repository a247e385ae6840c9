-- SUMMARY: The tokens of JSON: blanks, words, numbers and strings.
import SymbolIndex.Decimal.Shortest
import SymbolIndex.Json.Fault

/-! # Tokens

Each reader takes the bytes that are left and gives what it read together with
the bytes behind it. Numbers are exact as long as they are integers of 64 bits
and floating-point numbers otherwise. -/

namespace SymbolIndex.Json

/-- Reads something off the front of a text. -/
abbrev Reader (α : Type) := Bytes → Except Fault (α × Bytes)

def byte (c : Char) : UInt8 := c.toUInt8

def isBlank (b : UInt8) : Bool :=
  b = byte ' ' || b = byte '\n' || b = byte '\t' || b = byte '\r'

def skipBlanks (bs : Bytes) : Bytes := bs.dropWhile isBlank

/-- Reads the given bytes, the tail of a word whose first letter decided what
it has to be. -/
def word : (expected : Bytes) → Bytes → Except Fault Bytes
  | [], rest => .ok rest
  | _ :: _, [] => .error (.here .endInValue [])
  | e :: expected, b :: rest =>
      if b = e then word expected rest else .error (.here .expectedWord rest)

/-! ## Digits -/

def isDigit (b : UInt8) : Bool := byte '0' ≤ b && b ≤ byte '9'

def digitValue (b : UInt8) : Nat := b.toNat - 48

def startsWithDigit : Bytes → Bool
  | b :: _ => isDigit b
  | [] => false

/-- Reads digits onto `n` as long as the value stays at or below `limit`. Gives
the value, the number of digits read, and the rest. -/
def readDigits (limit n : Nat) : Bytes → Nat × Nat × Bytes
  | [] => (n, 0, [])
  | b :: rest =>
      if isDigit b && n * 10 + digitValue b ≤ limit then
        let (value, count, rest) := readDigits limit (n * 10 + digitValue b) rest
        (value, count + 1, rest)
      else (n, 0, b :: rest)

def wordLimit : Nat := 0xFFFFFFFFFFFFFFFF

def exponentLimit : Nat := 0x7FFFFFFF

/-! ## Numbers -/

inductive Number where
  | integer (value : Int)
  | real (value : Float)
  deriving Repr

def Number.found : Number → Found
  | integer value => .integer value
  | real value => .real (Decimal.text value)

def signed (positive : Bool) (x : Float) : Float := if positive then x else -x

/-- Scales `f` by a power of ten in steps of at most `1e308`; `none` if the
result is too large. -/
def scale : (steps : Nat) → Float → (exponent : Int) → Option Float
  | 0, _, _ => some 0
  | steps + 1, f, exponent =>
      if exponent.natAbs ≤ 308 then
        let power := Float.ofScientific 1 false exponent.natAbs
        if 0 ≤ exponent then
          if (f * power).isInf then none else some (f * power)
        else some (f / power)
      else if f == 0 then some f
      else if 0 ≤ exponent then none
      else scale steps (f / Float.ofScientific 1 false 308) (exponent + 308)

/-- The number `significand * 10 ^ exponent`, computed in floating point. -/
def realNumber (positive : Bool) (significand : Nat) (exponent : Int) : Reader Number := fun rest =>
  match scale 4 significand.toUInt64.toFloat exponent with
  | some x => .ok (.real (signed positive x), rest)
  | none => .error (.here .numberOutOfRange rest)

/-- Reads what follows the `e`. -/
def exponentPart (positive : Bool) (significand : Nat) (start : Int) : Reader Number := fun bs =>
  let (positiveExponent, bs) :=
    match bs with
    | b :: rest =>
        if b = byte '+' then (true, rest) else if b = byte '-' then (false, rest) else (true, bs)
    | [] => (true, [])
  match bs with
  | [] => .error (.here .endInValue [])
  | b :: rest =>
      if !isDigit b then .error (.here .badNumber rest)
      else
        let (exponent, _, rest) := readDigits exponentLimit (digitValue b) rest
        if startsWithDigit rest then
          if significand ≠ 0 && positiveExponent then
            .error (.here .numberOutOfRange (rest.drop 1))
          else .ok (.real (signed positive 0), rest.dropWhile isDigit)
        else
          realNumber positive significand
            (if positiveExponent then start + exponent else start - exponent) rest

def startsExponent (b : UInt8) : Bool := b = byte 'e' || b = byte 'E'

/-- Goes on with an exponent if there is one. -/
def afterDigits (positive : Bool) (significand : Nat) (exponent : Int) : Reader Number
  | b :: rest =>
      if startsExponent b then exponentPart positive significand exponent rest
      else realNumber positive significand exponent (b :: rest)
  | [] => realNumber positive significand exponent []

/-- Reads what follows the point. Digits beyond 64 bits are dropped. -/
def fractionPart (positive : Bool) (significand : Nat) (start : Int) : Reader Number := fun bs =>
  let (significand, count, rest) := readDigits wordLimit significand bs
  if startsWithDigit rest then
    afterDigits positive significand (start - count) (rest.dropWhile isDigit)
  else if count = 0 then
    .error (.next (if rest.isEmpty then .endInValue else .badNumber) rest)
  else afterDigits positive significand (start - count) rest

/-- The integer with the given sign. Zero with a minus sign and what is below
`-2^63` are floating-point numbers. -/
def integerNumber (positive : Bool) (significand : Nat) : Number :=
  if positive then .integer significand
  else if significand = 0 || 0x8000000000000000 < significand then
    .real (-significand.toUInt64.toFloat)
  else .integer (-significand)

/-- Goes on behind the digits of the integer part. -/
def afterInteger (positive : Bool) (significand : Nat) : Reader Number
  | b :: rest =>
      if b = byte '.' then fractionPart positive significand 0 rest
      else if startsExponent b then exponentPart positive significand 0 rest
      else .ok (integerNumber positive significand, b :: rest)
  | [] => .ok (integerNumber positive significand, [])

/-- Goes on behind an integer part of more than 64 bits: each further digit
counts as a factor of ten. -/
def afterLongInteger (positive : Bool) (significand : Nat) : Reader Number := fun bs =>
  let exponent : Int := (bs.takeWhile isDigit).length
  match bs.dropWhile isDigit with
  | b :: rest =>
      if b = byte '.' then fractionPart positive significand exponent rest
      else if startsExponent b then exponentPart positive significand exponent rest
      else realNumber positive significand exponent (b :: rest)
  | [] => realNumber positive significand exponent []

/-- Reads a number whose sign has been read. -/
def readNumber (positive : Bool) : Reader Number
  | [] => .error (.here .endInValue [])
  | b :: rest =>
      if b = byte '0' then
        if startsWithDigit rest then .error (.next .badNumber rest)
        else afterInteger positive 0 rest
      else if isDigit b then
        let (significand, _, rest) := readDigits wordLimit (digitValue b) rest
        if startsWithDigit rest then afterLongInteger positive significand rest
        else afterInteger positive significand rest
      else .error (.here .badNumber rest)

/-! ## Strings -/

def hexValue? (b : UInt8) : Option Nat :=
  if isDigit b then some (b.toNat - 48)
  else if byte 'a' ≤ b && b ≤ byte 'f' then some (b.toNat - 87)
  else if byte 'A' ≤ b && b ≤ byte 'F' then some (b.toNat - 55)
  else none

/-- Reads four hexadecimal digits. -/
def fourHex : Reader Nat
  | a :: b :: c :: d :: rest =>
      match hexValue? a, hexValue? b, hexValue? c, hexValue? d with
      | some a, some b, some c, some d => .ok (((a * 16 + b) * 16 + c) * 16 + d, rest)
      | _, _, _, _ => .error (.here .badEscape rest)
  | _ => .error (.here .endInString [])

def isLeadSurrogate (n : Nat) : Bool := 0xD800 ≤ n && n ≤ 0xDBFF

def isTrailSurrogate (n : Nat) : Bool := 0xDC00 ≤ n && n ≤ 0xDFFF

def surrogatePair (lead trail : Nat) : Nat := (lead - 0xD800) * 0x400 + (trail - 0xDC00) + 0x10000

/-- Reads what follows `\u`: one number, or two that make a surrogate pair. -/
def unicodeEscape : Reader Char := fun bs => do
  let (n, rest) ← fourHex bs
  if isTrailSurrogate n then .error (.here .loneSurrogate rest)
  else if isLeadSurrogate n then
    match rest with
    | [] => .error (.here .endInString [])
    | b :: rest =>
        if b ≠ byte '\\' then .error (.here .endInEscape rest)
        else
          match rest with
          | [] => .error (.here .endInString [])
          | b :: rest =>
              if b ≠ byte 'u' then .error (.here .endInEscape rest)
              else
                let (m, rest) ← fourHex rest
                if isTrailSurrogate m then .ok (.ofNat (surrogatePair n m), rest)
                else .error (.here .loneSurrogate rest)
  else .ok (.ofNat n, rest)

/-- The character of a one-letter escape. -/
def shortEscape? (b : UInt8) : Option UInt8 :=
  if b = byte '"' || b = byte '\\' || b = byte '/' then some b
  else if b = byte 'b' then some 8
  else if b = byte 'f' then some 12
  else if b = byte 'n' then some 10
  else if b = byte 'r' then some 13
  else if b = byte 't' then some 9
  else none

/-- Reads what follows a backslash, as UTF-8. -/
def escape : Reader Bytes
  | [] => .error (.here .endInString [])
  | b :: rest =>
      match shortEscape? b with
      | some c => .ok ([c], rest)
      | none =>
          if b = byte 'u' then do
            let (c, rest) ← unicodeEscape rest
            .ok (Utf8.encode (.singleton c), rest)
          else .error (.here .badEscape rest)

/-- Bytes that stand for themselves in a string. -/
def isPlain (b : UInt8) : Bool := b ≠ byte '"' && b ≠ byte '\\' && 0x20 ≤ b

/-- Reads a string up to the quote behind it. Every step but the last takes an
escape, and so the number of bytes bounds the steps. -/
def stringBytes : (fuel : Nat) → Reader Bytes
  | 0, bs => .error (.here .endInString bs)
  | fuel + 1, bs =>
      let plain := bs.takeWhile isPlain
      match bs.dropWhile isPlain with
      | [] => .error (.here .endInString [])
      | b :: rest =>
          if b = byte '"' then .ok (plain, rest)
          else if b = byte '\\' then do
            let (c, rest) ← escape rest
            let (tail, rest) ← stringBytes fuel rest
            .ok (plain ++ c ++ tail, rest)
          else .error (.here .controlCharacter rest)

/-- Reads a string whose first quote has been read. -/
def readString : Reader String := fun bs => do
  let (content, rest) ← stringBytes (bs.length + 1) bs
  .ok (Utf8.decode content, rest)

end SymbolIndex.Json
