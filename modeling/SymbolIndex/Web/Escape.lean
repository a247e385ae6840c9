-- SUMMARY: Percent escapes, and text as form fields.
import SymbolIndex.Text.CodeTable
import SymbolIndex.Text.Utf8

/-! # Escapes

A byte that may not stand where it is meant is written as `%` and two
hexadecimal digits. -/

namespace SymbolIndex.Escape

def hexPair (b : UInt8) : List Char :=
  let digit (n : Nat) : Char := (Nat.digitChar n).toUpper
  [digit (b.toNat / 16), digit (b.toNat % 16)]

/-- The bytes of a character as percent escapes. -/
def char (c : Char) : List Char :=
  (Utf8.encode (.singleton c)).flatMap fun b => '%' :: hexPair b

/-- Escapes the characters outside printable ASCII and some others. -/
def text (others : List Char) (cs : List Char) : String :=
  .ofList (cs.flatMap fun c =>
    if c.toNat < 0x20 || 0x7E < c.toNat || others.contains c then char c else [c])

def inFragment : List Char := [' ', '"', '<', '>', Char.ofNat 0x60]

def inPath : List Char := inFragment ++ ['#', '?', '\x7b', '\x7d']

def inUser : List Char := inPath ++ ['/', ':', ';', '=', '@', '[', '\\', ']', '^', '|']

def inQuery : List Char := [' ', '"', '#', '<', '>']

/-- The bytes of a text whose percent escapes are undone. -/
def undo : List Char → Bytes
  | '%' :: a :: b :: rest =>
      match Text.hexDigit? a, Text.hexDigit? b with
      | some high, some low => .ofNat (high * 16 + low) :: undo rest
      | _, _ => 37 :: undo (a :: b :: rest)
  | c :: rest => Utf8.encode (.singleton c) ++ undo rest
  | [] => []

/-- A text as a form field. -/
def formField (s : String) : String :=
  .ofList (s.toList.flatMap fun c =>
    if c.isAlphanum || c = '*' || c = '-' || c = '.' || c = '_' then [c]
    else if c = ' ' then ['+']
    else char c)

end SymbolIndex.Escape
