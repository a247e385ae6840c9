-- SUMMARY: Reading bytes as UTF-8, strictly or with a replacement character per broken sequence.

/-! # UTF-8

`decode` reads any byte string. Where the bytes are not UTF-8, each longest
prefix of a well-formed sequence (or else a single byte) becomes one U+FFFD, as
the Unicode standard recommends. `decode?` accepts well-formed input only, and
`encode` writes text back. -/

namespace SymbolIndex

/-- File contents and path texts are byte strings. -/
abbrev Bytes := List UInt8

namespace Utf8

/-! ## One sequence -/

def replacement : Char := '\uFFFD'

/-- A continuation byte, `10xxxxxx`. -/
def isContinuation (b : UInt8) : Bool := 0x80 ≤ b && b ≤ 0xBF

/-- The bytes that may follow the first byte of a three-byte sequence: they
exclude overlong forms and surrogates. -/
def follows3 (b0 b1 : UInt8) : Bool :=
  if b0 == 0xE0 then 0xA0 ≤ b1 && b1 ≤ 0xBF
  else if b0 == 0xED then 0x80 ≤ b1 && b1 ≤ 0x9F
  else isContinuation b1

/-- The bytes that may follow the first byte of a four-byte sequence: they
exclude overlong forms and code points above U+10FFFF. -/
def follows4 (b0 b1 : UInt8) : Bool :=
  if b0 == 0xF0 then 0x90 ≤ b1 && b1 ≤ 0xBF
  else if b0 == 0xF4 then 0x80 ≤ b1 && b1 ≤ 0x8F
  else isContinuation b1

def point2 (b0 b1 : UInt8) : Char :=
  .ofNat ((b0.toNat - 0xC0) * 64 + (b1.toNat - 0x80))

def point3 (b0 b1 b2 : UInt8) : Char :=
  .ofNat (((b0.toNat - 0xE0) * 64 + (b1.toNat - 0x80)) * 64 + (b2.toNat - 0x80))

def point4 (b0 b1 b2 b3 : UInt8) : Char :=
  .ofNat ((((b0.toNat - 0xF0) * 64 + (b1.toNat - 0x80)) * 64 + (b2.toNat - 0x80)) * 64 +
    (b3.toNat - 0x80))

/-- What starts with the byte `b0`: a character, or `none` for a broken
sequence, and the bytes after it. -/
def step (b0 : UInt8) (rest : Bytes) : Option Char × Bytes :=
  if b0 < 0x80 then (some (.ofNat b0.toNat), rest)
  else if 0xC2 ≤ b0 && b0 ≤ 0xDF then
    match rest with
    | b1 :: tail => if isContinuation b1 then (some (point2 b0 b1), tail) else (none, rest)
    | [] => (none, [])
  else if 0xE0 ≤ b0 && b0 ≤ 0xEF then
    match rest with
    | b1 :: tail =>
        if follows3 b0 b1 then
          match tail with
          | b2 :: tail' =>
              if isContinuation b2 then (some (point3 b0 b1 b2), tail') else (none, tail)
          | [] => (none, [])
        else (none, rest)
    | [] => (none, [])
  else if 0xF0 ≤ b0 && b0 ≤ 0xF4 then
    match rest with
    | b1 :: tail =>
        if follows4 b0 b1 then
          match tail with
          | b2 :: tail' =>
              if isContinuation b2 then
                match tail' with
                | b3 :: tail'' =>
                    if isContinuation b3 then (some (point4 b0 b1 b2 b3), tail'')
                    else (none, tail')
                | [] => (none, [])
              else (none, tail)
          | [] => (none, [])
        else (none, rest)
    | [] => (none, [])
  else (none, rest)

theorem step_length_le (b0 : UInt8) (rest : Bytes) : (step b0 rest).2.length ≤ rest.length := by
  unfold step
  repeat' split
  all_goals simp
  all_goals omega

/-! ## Whole texts -/

/-- The characters of a byte string, `none` standing for a broken sequence. -/
def scan : Bytes → List (Option Char)
  | [] => []
  | b :: rest => (step b rest).1 :: scan (step b rest).2
termination_by bs => bs.length
decreasing_by
  have := step_length_le b rest
  simp only [List.length_cons]
  omega

@[simp] theorem scan_nil : scan [] = [] := by simp [scan]

theorem scan_cons (b : UInt8) (rest : Bytes) :
    scan (b :: rest) = (step b rest).1 :: scan (step b rest).2 := by
  rw [scan]

def decodeChars (bs : Bytes) : List Char := (scan bs).map (·.getD replacement)

/-- The text of any byte string, with U+FFFD in the place of what is not UTF-8. -/
def decode (bs : Bytes) : String := .ofList (decodeChars bs)

/-- The text of a well-formed byte string. -/
def decode? (bs : Bytes) : Option String := ((scan bs).mapM id).map String.ofList

def encode (s : String) : Bytes := s.toUTF8.toList

end Utf8

end SymbolIndex
