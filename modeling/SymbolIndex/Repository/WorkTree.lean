-- SUMMARY: Work trees: their administrations, and the work tree that a directory lies in.
import SymbolIndex.File.System
import SymbolIndex.Repository.Wildcard
import SymbolIndex.Text.Names

/-! # Work trees

A work tree is a directory with an administration: a directory `.git`, or one
that a file of this name leads to. A directory lies in the nearest work tree at
or above it. The search ends without one at a file `.git` that leads nowhere and
inside an administration. -/

namespace SymbolIndex.Repository

/-- The name that stands for the administration in a work tree. -/
def adminName : Bytes := Utf8.encode ".git"

/-! ## Administrations -/

/-- A line break of any kind. -/
def isBreak (b : UInt8) : Bool := b = 10 || b = 13

/-- A text without the line breaks at its end. -/
def withoutBreaks (content : Bytes) : Bytes := (content.reverse.dropWhile isBreak).reverse

/-- A digit to the base 16. -/
def isHex (b : UInt8) : Bool := ByteClass.xdigit.contains b

/-- White space in the way of a reference. -/
def isGap (b : UInt8) : Bool := ByteClass.space.contains b || b = 11 || b = 12

/-- The content of a head names a branch or a revision. -/
def isHead (content : Bytes) : Bool :=
  let named := (Text.stripFront? (Utf8.encode "ref:") content).any fun rest =>
    (Utf8.encode "refs/").isPrefixOf (rest.dropWhile isGap)
  named || 40 ≤ (content.takeWhile isHex).length

/-- The head of an administration is a link into its references, or a file that
names a branch or a revision. -/
def hasHead (fs : FileSystem) (admin : RealPath) : Bool :=
  match fs.entryAt? (admin ++ [Utf8.encode "HEAD"]) with
  | some (.symlink target) => (Utf8.encode "refs/").isPrefixOf target.bytes
  | some (.file content _) => isHead content
  | _ => false

/-- What an administration shares with others: a file `commondir` leads there. -/
def sharedOf (fs : FileSystem) (admin : RealPath) : Path :=
  let path := RealPath.toPath admin
  match fs.read (path / "commondir") with
  | .ok content => path.join ⟨withoutBreaks content⟩
  | .error _ => path

/-- The directory is an administration. -/
def isAdmin (fs : FileSystem) (dir : RealPath) : Bool :=
  hasHead fs dir && fs.isDir (sharedOf fs dir / "objects") && fs.isDir (sharedOf fs dir / "refs")

/-- The administration that a path leads to. -/
def adminAt? (fs : FileSystem) (path : Path) : Option RealPath :=
  match fs.resolve path with
  | .ok dir => if fs.entryAt? dir = some .directory && isAdmin fs dir then some dir else none
  | .error _ => none

/-- The administration that the content of a file `.git` in `dir` leads to. -/
def pointedAdmin? (fs : FileSystem) (dir : RealPath) (content : Bytes) : Option RealPath :=
  (Text.stripFront? (Utf8.encode "gitdir: ") content).bind fun rest =>
    let target := withoutBreaks rest
    if target.isEmpty then none else adminAt? fs ((RealPath.toPath dir).join ⟨target⟩)

/-! ## Search -/

/-- What a directory is to the search for a work tree. -/
inductive Site where
  | top (admin : RealPath)
  /-- Neither this directory nor one above it counts. -/
  | barrier
  | plain
  deriving DecidableEq, Repr

def siteAt (fs : FileSystem) (dir : RealPath) : Site :=
  let path := RealPath.toPath dir / ".git"
  if fs.isFile path then
    match (fs.read path).toOption.bind (pointedAdmin? fs dir) with
    | some admin => .top admin
    | none => .barrier
  else
    match adminAt? fs path with
    | some admin => .top admin
    | none => if isAdmin fs dir then .barrier else .plain

/-- A work tree of its own starts at the directory. -/
def isTop (fs : FileSystem) (dir : RealPath) : Bool :=
  match siteAt fs dir with
  | .top _ => true
  | _ => false

/-- The directory at the top of a work tree, and its administration. -/
structure WorkTree where
  top : RealPath
  admin : RealPath
  deriving DecidableEq, Repr

/-- The work tree that the directory lies in. -/
def WorkTree.around? (fs : FileSystem) (dir : RealPath) : Option WorkTree :=
  let sites := (List.range (dir.length + 1)).reverse.map fun n =>
    (dir.take n, siteAt fs (dir.take n))
  match sites.find? fun (_, site) => site ≠ .plain with
  | some (top, .top admin) => some ⟨top, admin⟩
  | _ => none

end SymbolIndex.Repository
