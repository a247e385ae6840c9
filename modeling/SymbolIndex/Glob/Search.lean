-- SUMMARY: The paths in a file system that match a pattern.
import SymbolIndex.File.System
import SymbolIndex.Glob.Pattern

/-! # Pattern search

A pattern is followed component by component from the working directory or the
root. Links to directories are followed, and the system's limit on links ends
every loop. -/

namespace SymbolIndex

/-! ## Directories -/

namespace FileSystem

/-- The names in the directory that `p` leads to, in ascending order. -/
def namesAt (fs : FileSystem) (p : Path) : List Bytes :=
  match fs.resolve p with
  | .ok dir =>
      if fs.entryAt? dir = some .directory then
        (fs.namesIn dir).mergeSort fun a b => !Path.bytesLt b a
      else []
  | .error _ => []

end FileSystem

/-- The path of a name in a directory. Names in the working directory stand
alone. -/
def Path.child (dir : Path) (name : Bytes) : Path :=
  if dir.same (.ofString ".") then ⟨name⟩ else dir.join ⟨name⟩

namespace Glob

variable (fs : FileSystem)

def children (dir : Path) : List Path := (fs.namesAt dir).map dir.child

/-- Everything below a directory, each directory before its contents. -/
def descendants : (depth : Nat) → Path → List Path
  | 0, _ => []
  | depth + 1, dir =>
      (children fs dir).flatMap fun p => if fs.isDir p then p :: descendants depth p else [p]

/-! ## Following a pattern -/

/-- The name of the path is text that fits the pattern. -/
def nameFits (pattern : Pattern) (p : Path) : Bool :=
  match p.fileName?.bind Utf8.decode? with
  | some name => pattern.accepts name.toList
  | none => false

/-- `.` and `..` in a directory, as far as a pattern with a leading dot fits
them. -/
def specials (pattern : Pattern) (dir : Path) : List Path :=
  if pattern.head? = some (.char '.') then
    (([".", ".."] : List String).filter fun name => pattern.accepts name.toList).map (dir / ·)
  else []

/-- The paths that the patterns lead to from `dir`. -/
def follow : List Pattern → (dir : Path) → List Path
  | [], dir => [dir]
  | pattern :: rest, dir =>
      match pattern.literal? with
      | some name =>
          let next := dir.child (Utf8.encode (.ofList name))
          if fs.exists? next then follow rest next else []
      | none =>
          if pattern.isRecursive then
            let below := descendants fs FileSystem.pathLimit dir
            match rest with
            | [] => below.filter fs.isDir
            | next :: rest => (below.filter (nameFits next)).flatMap (follow rest)
          else
            (specials pattern dir ++ (children fs dir).filter (nameFits pattern)).flatMap
              (follow rest)

/-- Neighbouring `**` components count as one. -/
def collapse : List Pattern → List Pattern
  | p :: q :: rest =>
      if p.isRecursive && q.isRecursive then collapse (q :: rest) else p :: collapse (q :: rest)
  | ps => ps

/-- The parts between slashes; a slash at the end begins no further part. -/
def patternParts (cs : List Char) : List (List Char) :=
  let parts := Text.splitAt '/' cs
  if parts.getLast? = some [] then parts.dropLast else parts

/-- The paths that match a pattern. With a slash at its end only directories
match. -/
def search (pattern : String) : Except PatternError (List Path) := do
  let cs := pattern.toList
  let _ ← Pattern.ofChars cs
  let absolute := cs.head? = some '/'
  let parts := patternParts (if absolute then cs.drop 1 else cs)
  let patterns ← parts.mapM Pattern.ofChars
  let patterns := if absolute && parts.isEmpty then [[]] else patterns
  let start := Path.ofString (if absolute then "/" else ".")
  let found := if patterns.isEmpty then [] else follow fs (collapse patterns) start
  .ok (if cs.getLast? = some '/' then found.filter fs.isDir else found)

end Glob

end SymbolIndex
