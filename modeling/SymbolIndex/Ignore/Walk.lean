-- SUMMARY: The files below a directory that no ignore file hides.
import SymbolIndex.Ignore.Level

/-! # Walking a tree

A walk gives the regular files below a directory. It does not follow links,
except for the directory itself, and it does not enter what is ignored. Ignore
files above the directory count too. -/

namespace SymbolIndex

/-! ## Order and spelling -/

namespace RealPath

/-- Name by name, and bytewise within a name. -/
def lt : RealPath → RealPath → Bool
  | _, [] => false
  | [], _ :: _ => true
  | a :: as, b :: bs => Path.bytesLt a b || (a == b && lt as bs)

def sort (keys : List RealPath) : List RealPath := keys.mergeSort fun a b => !lt b a

/-- The spelling of what stands at `key`, as seen from a spelling of `top`. -/
def spelledFrom (root : Path) (top key : RealPath) : Path :=
  if key = top then root else root.join ⟨[Path.slash].intercalate (key.drop top.length)⟩

end RealPath

/-! ## Levels -/

namespace FileSystem

/-- A real directory and the directories below it, each after those below it. -/
def directoriesFrom (fs : FileSystem) (top : RealPath) : List RealPath :=
  let found := fs.entries.filterMap fun (key, e) =>
    if e = .directory && key.isBelow top then some key else none
  (top :: found).mergeSort fun a b => b.length ≤ a.length

/-- The levels above a real directory, the nearest first. -/
def levelsAbove (fs : FileSystem) (top : RealPath) : List Ignore.Level :=
  (List.range top.length).reverse.map fun n =>
    Ignore.Level.read fs (top.take n) (RealPath.toPath (top.take n))

/-- The levels that count for a walk of `root`, which leads to `top`. -/
def levels (fs : FileSystem) (root : Path) (top : RealPath) : Ignore.Levels where
  inside := (fs.directoriesFrom top).map fun dir =>
    Ignore.Level.read fs dir (RealPath.spelledFrom root top dir)
  above := fs.levelsAbove top

end FileSystem

/-- Neither the file at `key` nor a directory on the way to it from `top` is
ignored. -/
def Ignore.Levels.keeps (levels : Ignore.Levels) (root : Path) (top key : RealPath) : Bool :=
  (List.range (key.length - top.length)).all fun n =>
    let part := key.take (top.length + n + 1)
    levels.verdict? part (RealPath.spelledFrom root top part).bytes (part.length < key.length) !=
      some .ignored

/-! ## Walk -/

/-- A regular file, not a link to one. -/
def Entry.isRegular : Entry → Bool
  | .file _ _ => true
  | .unreadable => true
  | _ => false

namespace FileSystem

/-- The regular files strictly below a real directory. -/
def filesBelow (fs : FileSystem) (top : RealPath) : List RealPath :=
  fs.entries.filterMap fun (key, e) => if e.isRegular && key.isBelow top then some key else none

/-- The root of a walk that stands for the standard input, which is no file. -/
def standardInput : Path := .ofString "-"

/-- The files below `root` that are not ignored, in order. A root that leads to
a file stands for itself. -/
def walk (fs : FileSystem) (root : Path) : List Path :=
  match fs.resolve root with
  | .error _ => []
  | .ok top =>
      if root.same standardInput then []
      else if fs.entryAt? top = some .directory then
        let levels := fs.levels root top
        let kept := (fs.filesBelow top).filter (levels.keeps root top)
        (RealPath.sort kept).map (RealPath.spelledFrom root top)
      else [root]

/-- What a walk finds wrong with the ignore files above `root`, if anything. -/
def walkProblem? (fs : FileSystem) (root : Path) : Option String :=
  match fs.resolve root with
  | .error _ => none
  | .ok top =>
      if root.same standardInput || fs.entryAt? top ≠ some .directory then none
      else
        match (fs.levelsAbove top).reverse.flatMap (·.problems fs) with
        | [] => none
        | problems => some ("\n".intercalate problems)

end FileSystem

end SymbolIndex
