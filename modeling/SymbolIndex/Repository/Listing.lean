-- SUMMARY: Repositories and the files that a work tree lists.
import SymbolIndex.Ignore.Walk
import SymbolIndex.Repository.Exclusion
import SymbolIndex.Repository.WorkTree

/-! # Listing a work tree

A work tree lists the files it tracks, excluded or not, and of the others those
that are not excluded. Links count as files. A work tree inside another one is
listed as a directory and not entered. -/

namespace SymbolIndex

/-- An administration and the files it tracks, by their names from the top of
the work tree. -/
structure Repository where
  admin : RealPath
  tracked : List RealPath
  deriving DecidableEq, Repr

namespace Repository

/-! ## Exclusions of a work tree -/

/-- The exclusions of each directory, named from the top of the work tree. A
link to a file of exclusions does not count. -/
def WorkTree.ownExclusions (tree : WorkTree) (fs : FileSystem) : List (RealPath × List Exclusion) :=
  fs.entries.filterMap fun (key, e) =>
    match e with
    | .file content _ =>
        if key.isBelow tree.top && key.getLast? = some (Utf8.encode ".gitignore") then
          some (key.dropLast.drop tree.top.length, Exclusion.ofContent content)
        else none
    | _ => none

/-- The exclusions that are not part of the tree. -/
def WorkTree.localExclusions (tree : WorkTree) (fs : FileSystem) : List Exclusion :=
  match fs.read (sharedOf fs tree.admin / "info" / "exclude") with
  | .ok content => Exclusion.ofContent content
  | .error _ => []

/-- All exclusions, those of a directory behind those of the directories above
it: a later one decides. -/
def WorkTree.exclusions (tree : WorkTree) (fs : FileSystem) : List (RealPath × List Exclusion) :=
  ([], tree.localExclusions fs) ::
    (tree.ownExclusions fs).mergeSort fun a b => a.1.length ≤ b.1.length

/-- The last matching exclusion of the nearest directory that has one excludes
what stands under these names. -/
def isExcluded (levels : List (RealPath × List Exclusion)) (names : RealPath) (isDir : Bool) :
    Bool :=
  let found := levels.reverse.findSome? fun (dir, es) =>
    if names.isBelow dir then lastMatch? es (names.drop dir.length) isDir else none
  found.any fun e => !e.negated

/-! ## Listing -/

/-- A file or a link, which need not lead anywhere. -/
def isListable : Entry → Bool
  | .directory => false
  | _ => true

/-- The directory is a work tree of its own. One that holds tracked files
belongs to the tree around it. -/
def WorkTree.isInner (tree : WorkTree) (fs : FileSystem) (tracked : List RealPath)
    (names : RealPath) : Bool :=
  isTop fs (tree.top ++ names) && !tracked.any (·.isBelow names)

/-- What is below the directory under these names is looked at. -/
def WorkTree.enters (tree : WorkTree) (fs : FileSystem) (tracked : List RealPath)
    (levels : List (RealPath × List Exclusion)) (names : RealPath) : Bool :=
  names.getLast? ≠ some adminName && !isExcluded levels names true &&
    !tree.isInner fs tracked names

/-- The names from the top of what is not tracked and not excluded, `below` a
directory: of files, and with a slash at their end of inner work trees. -/
def WorkTree.others (tree : WorkTree) (fs : FileSystem) (tracked : List RealPath)
    (below : RealPath) : List Bytes :=
  let levels := tree.exclusions fs
  fs.entries.filterMap fun (key, e) =>
    let names : RealPath := key.drop tree.top.length
    let isCandidate := key.isBelow tree.top && names.isBelow below &&
      names.getLast? ≠ some adminName && !tracked.contains names
    let isReached := (List.range (names.length - 1)).all fun n =>
      tree.enters fs tracked levels (names.take (n + 1))
    let name := [Path.slash].intercalate names
    if isCandidate && isReached && !isExcluded levels names (!isListable e) then
      if isListable e then some name
      else if tree.isInner fs tracked names then some (name ++ [Path.slash])
      else none
    else none

def sortNames (names : List Bytes) : List Bytes :=
  names.mergeSort fun a b => !Path.bytesLt b a

/-- The names that the work tree around `top` lists below it, seen from there:
first those that are not tracked. Tracked files are listed even if they are
gone. -/
def names (r : Repository) (fs : FileSystem) (top : RealPath) : List Bytes :=
  match WorkTree.around? fs top with
  | none => []
  | some tree =>
      let tracked := if tree.admin = r.admin then r.tracked else []
      let below := top.drop tree.top.length
      let skipped := if below = [] then 0 else ([Path.slash].intercalate below).length + 1
      let listed := (tracked.filter (·.isBelow below)).map ([Path.slash].intercalate ·)
      (sortNames (tree.others fs tracked below) ++ sortNames listed).map (·.drop skipped)

/-! ## Creation -/

/-- The content of a head that names the first branch. -/
def firstHead : Bytes := Utf8.encode "ref: refs/heads/master\n"

/-- Makes an administration unless there is one. -/
def makeAdmin (fs : FileSystem) (admin : RealPath) : FileSystem :=
  let file (name : String) := admin ++ [Utf8.encode name]
  let fs := (fs.makeDir admin).makeDir (file "objects")
  let fs := fs.makeDir (file "refs")
  if (fs.entryAt? (file "HEAD")).isNone then fs.put (file "HEAD") (.file firstHead 0) else fs

/-- The work tree at a directory, which is made first, with the given files
tracked; of a directory, all its files. -/
def create (fs : FileSystem) (dir : Path) (paths : List Path) : FileSystem × Repository :=
  let top := fs.place true dir
  let fs := makeAdmin (fs.makeDir top) (fs.place true (dir / ".git"))
  let admin := fs.place true (dir / ".git")
  let tracked := paths.flatMap fun p =>
    let key := fs.place false (dir.join p)
    fs.entries.filterMap fun (other, e) =>
      let names := other.drop top.length
      if isListable e && key.isPrefixOf other && other.isBelow top && !names.contains adminName then
        some names
      else none
  (fs, ⟨admin, Text.firsts tracked⟩)

end Repository

end SymbolIndex
