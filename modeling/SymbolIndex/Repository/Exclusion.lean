-- SUMMARY: The exclusions of a work tree: their lines, and the verdict on a path.
import SymbolIndex.File.System
import SymbolIndex.Repository.Wildcard
import SymbolIndex.Text.Names

/-! # Exclusions

A line of an exclusion file is a pattern, and the last pattern that matches a
path decides. A pattern without a slash, except at its end, is matched against
the name; any other one against the path from the directory of the file. -/

namespace SymbolIndex.Repository

structure Exclusion where
  /-- Without the marks around it. -/
  pattern : Bytes
  /-- The path is not excluded. -/
  negated : Bool
  onlyDirs : Bool
  /-- The pattern has a slash that is not at its end. -/
  isPath : Bool
  deriving DecidableEq, Repr

namespace Exclusion

/-! ## Reading -/

/-- The line without the blanks at its end. A blank behind a backslash stays. -/
def trimLine : Bytes → Bytes
  | [] => []
  | [b] => if b = 32 then [] else [b]
  | b :: c :: bs =>
      if b = backslash then b :: c :: trimLine bs
      else
        let rest := trimLine (c :: bs)
        if b = 32 && rest.isEmpty then [] else b :: rest

/-- The exclusion on a line, which ends before a zero byte. -/
def ofLine (line : Bytes) : Exclusion :=
  let line := trimLine (line.takeWhile (· ≠ 0))
  let negated := line.head? = some 33
  let pattern := if negated then line.drop 1 else line
  let onlyDirs := pattern.getLast? = some slash
  let body := if onlyDirs then pattern.dropLast else pattern
  { pattern := body, negated, onlyDirs, isPath := body.contains slash }

def byteOrderMark : Bytes := [0xEF, 0xBB, 0xBF]

/-- The exclusions of a file. Empty lines and comments are none. -/
def ofContent (content : Bytes) : List Exclusion :=
  let content := (Text.stripFront? byteOrderMark content).getD content
  let parts := Text.splitAt 10 content
  (parts.filter fun line => !line.isEmpty && line.head? ≠ some 35).map fun line =>
    ofLine (if line.getLast? = some 13 then line.dropLast else line)

/-! ## Matching -/

/-- The byte has a meaning of its own in a pattern. -/
def isSpecial (b : UInt8) : Bool := b = asterisk || b = 63 || b = opening || b = backslash

/-- The pattern matches a path from the directory of the file. What it starts
with before its first special byte is compared as it is, and the rest is read as
a pattern of its own. -/
def matchesPath (pattern path : Bytes) : Bool :=
  let pattern := if pattern.head? = some slash then pattern.drop 1 else pattern
  let plain := pattern.takeWhile fun b => !isSpecial b
  match Text.stripFront? plain path with
  | some rest => matchesWild (pattern.drop plain.length) rest
  | none => false

/-- The exclusion matches what stands under these names, seen from the directory
of the file. -/
def accepts (e : Exclusion) (names : RealPath) (isDir : Bool) : Bool :=
  (!e.onlyDirs || isDir) &&
    if e.isPath then matchesPath e.pattern ([slash].intercalate names)
    else matchesWild e.pattern (names.getLast?.getD [])

end Exclusion

/-- The last exclusion that matches. -/
def lastMatch? (es : List Exclusion) (names : RealPath) (isDir : Bool) : Option Exclusion :=
  es.reverse.find? (·.accepts names isDir)

end SymbolIndex.Repository
