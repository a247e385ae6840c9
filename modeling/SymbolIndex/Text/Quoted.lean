-- SUMMARY: Text in double quotes, with escapes for what would not show.
import SymbolIndex.Text.Printable

/-! # Quoted text

Messages show a text in double quotes. A quote, a backslash and the usual
control characters have short escapes; every other character without a shape is
written by its number in hexadecimal. -/

namespace SymbolIndex.Text

/-- A number in hexadecimal, lower case. -/
def hexDigits (n : Nat) : List Char := Nat.toDigits 16 n

/-- `\u` and the number of a character in braces. -/
def numericEscape (c : Char) : List Char :=
  ['\\', 'u', '\x7b'] ++ hexDigits c.toNat ++ ['\x7d']

/-- A character as it stands between the quotes. -/
def quotedChar (c : Char) : List Char :=
  if c = '"' then ['\\', '"']
  else if c = '\\' then ['\\', '\\']
  else if c = '\n' then ['\\', 'n']
  else if c = '\r' then ['\\', 'r']
  else if c = '\t' then ['\\', 't']
  else if c.toNat = 0 then ['\\', '0']
  else if c.toNat < 0x20 || isShapeless c then numericEscape c
  else [c]

def quoted (s : String) : String := .ofList ('"' :: s.toList.flatMap quotedChar ++ ['"'])

end SymbolIndex.Text
