-- SUMMARY: The MD5 digest of a byte string, in hexadecimal.
import SymbolIndex.Text.Utf8

/-! # MD5

Documents are named by the MD5 digest of their relative path. The message is
padded to whole blocks of 64 bytes, the blocks are folded into four words, and
the words are written byte by byte, the lowest byte first. -/

namespace SymbolIndex.Md5

/-! ## Words -/

structure Words where
  a : UInt32
  b : UInt32
  c : UInt32
  d : UInt32
  deriving DecidableEq, Repr

def start : Words := ⟨0x67452301, 0xefcdab89, 0x98badcfe, 0x10325476⟩

/-- The integer part of `2^32 * |sin (i + 1)|` for the 64 steps. -/
def sines : Array UInt32 := #[
  0xd76aa478, 0xe8c7b756, 0x242070db, 0xc1bdceee,
  0xf57c0faf, 0x4787c62a, 0xa8304613, 0xfd469501,
  0x698098d8, 0x8b44f7af, 0xffff5bb1, 0x895cd7be,
  0x6b901122, 0xfd987193, 0xa679438e, 0x49b40821,
  0xf61e2562, 0xc040b340, 0x265e5a51, 0xe9b6c7aa,
  0xd62f105d, 0x02441453, 0xd8a1e681, 0xe7d3fbc8,
  0x21e1cde6, 0xc33707d6, 0xf4d50d87, 0x455a14ed,
  0xa9e3e905, 0xfcefa3f8, 0x676f02d9, 0x8d2a4c8a,
  0xfffa3942, 0x8771f681, 0x6d9d6122, 0xfde5380c,
  0xa4beea44, 0x4bdecfa9, 0xf6bb4b60, 0xbebfbc70,
  0x289b7ec6, 0xeaa127fa, 0xd4ef3085, 0x04881d05,
  0xd9d4d039, 0xe6db99e5, 0x1fa27cf8, 0xc4ac5665,
  0xf4292244, 0x432aff97, 0xab9423a7, 0xfc93a039,
  0x655b59c3, 0x8f0ccc92, 0xffeff47d, 0x85845dd1,
  0x6fa87e4f, 0xfe2ce6e0, 0xa3014314, 0x4e0811a1,
  0xf7537e82, 0xbd3af235, 0x2ad7d2bb, 0xeb86d391]

/-- Rotation amounts: four for each of the four rounds of 16 steps. -/
def rotations : Array UInt32 := #[
  7, 12, 17, 22,
  5, 9, 14, 20,
  4, 11, 16, 23,
  6, 10, 15, 21]

def rotateLeft (x n : UInt32) : UInt32 := (x <<< n) ||| (x >>> (32 - n))

/-- The four bytes of a word, the lowest first. -/
def bytesOfWord (w : UInt32) : Bytes :=
  [w.toUInt8, (w >>> 8).toUInt8, (w >>> 16).toUInt8, (w >>> 24).toUInt8]

/-- The words of a byte string whose length is a multiple of four. -/
def wordsOfBytes : Bytes → List UInt32
  | b0 :: b1 :: b2 :: b3 :: rest =>
      (b0.toUInt32 ||| (b1.toUInt32 <<< 8) ||| (b2.toUInt32 <<< 16) ||| (b3.toUInt32 <<< 24)) ::
        wordsOfBytes rest
  | _ => []

/-! ## Blocks -/

/-- The mixing function of step `i` and the message word that it takes. -/
def mix (i : Nat) (w : Words) : UInt32 × Nat :=
  if i < 16 then ((w.b &&& w.c) ||| (~~~w.b &&& w.d), i)
  else if i < 32 then ((w.d &&& w.b) ||| (~~~w.d &&& w.c), (5 * i + 1) % 16)
  else if i < 48 then (w.b ^^^ w.c ^^^ w.d, (3 * i + 5) % 16)
  else (w.c ^^^ (w.b ||| ~~~w.d), (7 * i) % 16)

/-- Step `i` on a block. -/
def step (block : Array UInt32) (w : Words) (i : Nat) : Words :=
  let (mixed, word) := mix i w
  let sum := mixed + w.a + sines[i]?.getD 0 + block[word]?.getD 0
  ⟨w.d, w.b + rotateLeft sum (rotations[i / 16 * 4 + i % 4]?.getD 0), w.b, w.c⟩

/-- The words after a block of 16 message words. -/
def absorb (w : Words) (block : List UInt32) : Words :=
  let v := (List.range 64).foldl (step block.toArray) w
  ⟨w.a + v.a, w.b + v.b, w.c + v.c, w.d + v.d⟩

/-- A message, a one bit, zeros, and the message's length in bits as eight
bytes. -/
def pad (message : Bytes) : Bytes :=
  let bits := message.length * 8
  message ++ 0x80 :: List.replicate ((119 - message.length % 64) % 64) 0 ++
    (List.range 8).map fun i => UInt8.ofNat (bits / Nat.pow 256 i)

/-- Groups of 16 words. -/
def blocks : (count : Nat) → List UInt32 → List (List UInt32)
  | 0, _ => []
  | count + 1, words => words.take 16 :: blocks count (words.drop 16)

def digest (message : Bytes) : Words :=
  let words := wordsOfBytes (pad message)
  (blocks (words.length / 16) words).foldl absorb start

/-! ## Hexadecimal -/

/-- Two hexadecimal digits in lower case. -/
def hexByte (b : UInt8) : List Char :=
  [Nat.digitChar (b.toNat / 16), Nat.digitChar (b.toNat % 16)]

/-- The digest as 32 hexadecimal digits. -/
def hex (message : Bytes) : String :=
  let w := digest message
  .ofList (([w.a, w.b, w.c, w.d].flatMap bytesOfWord).flatMap hexByte)

end SymbolIndex.Md5
