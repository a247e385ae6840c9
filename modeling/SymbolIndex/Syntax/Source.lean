-- SUMMARY: The bytes a tree was parsed from: texts, rows and lines.
import SymbolIndex.Syntax.Node
import SymbolIndex.Text.Lines
import SymbolIndex.Text.Space
import SymbolIndex.Text.Utf8

/-! # Sources

The text of a node is the decoding of its byte range, and its row is the number
of `\n` before its first byte. Lines are those of the decoded file. -/

namespace SymbolIndex

open Syntax

/-! ## Bytes -/

/-- The bytes from offset `start` up to offset `stop`; none at all if the range
does not lie in the source. -/
def Bytes.range (bs : Bytes) (start stop : Nat) : Bytes :=
  if start ≤ stop ∧ stop ≤ bs.length then (bs.drop start).take (stop - start) else []

/-- The number of `\n` before an offset. -/
def Bytes.row (bs : Bytes) (offset : Nat) : Nat := (bs.take offset).count 10

/-- The lines of a file, decoded. -/
def Bytes.lines (bs : Bytes) : List String := Text.lines (Utf8.decode bs)

/-! ## Sources -/

/-- A source file and its lines. -/
structure Source where
  bytes : Bytes
  lines : List String

namespace Source

def ofBytes (bs : Bytes) : Source := ⟨bs, bs.lines⟩

/-- The text of a node. -/
def text (src : Source) (n : Node) : String := Utf8.decode (Bytes.range src.bytes n.start n.stop)

/-- The text of a node without the white space around it. -/
def trimmed (src : Source) (n : Node) : String := Text.trim (src.text n)

/-- The trimmed text of the first child under the field `f`. -/
def fieldText? (src : Source) (n : Node) (f : String) : Option String :=
  (n.childByField? f).map src.trimmed

/-- The row of a node's first byte, from 0. -/
def row (src : Source) (n : Node) : Nat := Bytes.row src.bytes n.start

/-- The line of a node's first byte, from 1. -/
def line (src : Source) (n : Node) : Nat := src.row n + 1

/-- The line behind a node's last byte, from 1. -/
def lastLine (src : Source) (n : Node) : Nat := Bytes.row src.bytes n.stop + 1

/-- The trimmed text of the line on which a node starts. -/
def lineText (src : Source) (n : Node) : String :=
  ((src.lines[src.row n]?).map Text.trim).getD ""

end Source

end SymbolIndex
