-- SUMMARY: Printing hits line by line, with counts or surrounding lines.
import SymbolIndex.Error
import SymbolIndex.Query.Mode

/-! # Printing hits

A hit is one line, `path:line: text` or `line: text`. With context, the lines
around it follow, and then a blank line. Line numbers are 64-bit words, and a
window whose end is none is not shown: printing panics behind the line of its
hit. -/

namespace SymbolIndex

/-- The hits of one file, with the lines of the file for context. -/
structure FileHits where
  path : Path
  hits : List Hit
  lines : List String
  deriving DecidableEq, Repr

structure DisplayOptions where
  /-- Put the path in front of every line. -/
  showPath : Bool := false
  /-- Print the number of hits and nothing else. -/
  countOnly : Bool := false
  /-- Lines to show on each side of a hit. -/
  context : UInt64 := 0
  deriving DecidableEq, Repr

/-- Paths are shown when hits may come from several files. -/
def shouldShowPath (noPath : Bool) (fileCount : Nat) (severalPossible : Bool) : Bool :=
  !noPath && (1 < fileCount || severalPossible)

/-! ## Context -/

/-- The rows in the window of `context` rows on each side of `row`: the first
one, and the one behind the last. -/
def contextWindow (row : Nat) (context : UInt64) : Except Panic (Nat × Nat) :=
  let behind := row + context.toNat + 1
  if behind < UInt64.size then .ok (row - context.toNat, behind) else .error .additionOverflow

/-- The lines around a row, each with its number from 1. -/
def contextLines (lines : List String) (row : Nat) (context : UInt64) :
    Except Panic (List (Nat × String)) := do
  let (first, behind) ← contextWindow row context
  return ((lines.zipIdx.take behind).drop first).filterMap fun (line, i) =>
    if i = row then none else some (i + 1, line)

/-! ## Rendering -/

/-- A number in at least four columns. -/
def padLeft4 (n : Nat) : String :=
  let digits := toString n
  .ofList (List.replicate (4 - digits.length) ' ') ++ digits

namespace FileHits

/-- What stands in front of a line number. -/
def lead (file : FileHits) (options : DisplayOptions) : String :=
  if options.showPath then file.path.displaySlashed ++ ":" else ""

def hitLine (file : FileHits) (options : DisplayOptions) (hit : Hit) : String :=
  file.lead options ++ toString hit.line ++ ": " ++ hit.text

def contextLine (file : FileHits) (options : DisplayOptions) (line : Nat × String) : String :=
  "  " ++ file.lead options ++ toString line.1 ++ "- " ++ line.2

/-- The lines printed for one hit, and the panic behind them, if one comes. -/
def hitLines (file : FileHits) (mode : QueryMode) (options : DisplayOptions) (hit : Hit) :
    List String × Option Panic :=
  let entry := file.hitLine options hit
  if options.context = 0 || !mode.supportsContext || hit.line = 0 then ([entry], none)
  else
    match contextLines file.lines (hit.line - 1) options.context with
    | .error p => ([entry], some p)
    | .ok around => (entry :: around.map (file.contextLine options) ++ [""], none)

/-- The lines printed for hits one after the other, up to a panic. -/
def linesOfHits (file : FileHits) (mode : QueryMode) (options : DisplayOptions) :
    List Hit → List String × Option Panic
  | [] => ([], none)
  | hit :: hits =>
      match file.hitLines mode options hit with
      | (lines, some p) => (lines, some p)
      | (lines, none) =>
          let (rest, panic?) := file.linesOfHits mode options hits
          (lines ++ rest, panic?)

/-- The lines printed for a file, up to a panic. -/
def displayLines (file : FileHits) (mode : QueryMode) (options : DisplayOptions) :
    List String × Option Panic :=
  if file.hits.isEmpty then ([], none)
  else if options.countOnly then
    ([padLeft4 file.hits.length ++ "  " ++ file.path.displaySlashed], none)
  else file.linesOfHits mode options file.hits

/-- Prints a file: the text, every line with its `\n`, and how many hits there are in
the file. -/
def print (file : FileHits) (mode : QueryMode) (options : DisplayOptions) :
    String × Except Panic Nat :=
  let (lines, panic?) := file.displayLines mode options
  (String.join (lines.map (· ++ "\n")), panic?.elim (.ok file.hits.length) .error)

/-- Prints files one after the other, up to a panic: the text, and how many hits there
are in all of them. -/
def printAll (mode : QueryMode) (options : DisplayOptions) :
    List FileHits → String × Except Panic Nat
  | [] => ("", .ok 0)
  | file :: files =>
      match file.print mode options with
      | (text, .error p) => (text, .error p)
      | (text, .ok count) =>
          let (rest, total) := printAll mode options files
          (text ++ rest, total.map (count + ·))

end FileHits

end SymbolIndex
