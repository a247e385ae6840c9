-- SUMMARY: What a watched tree reports about edits, and a maintainer that is told of them.
import SymbolIndex.File.Edit
import SymbolIndex.Watch.Maintainer

/-! # Notices

The system reports every edit below a watched directory as change events, after
the edit was made. -/

namespace SymbolIndex

/-- The real path lies below a watched directory. -/
def isWatched (root : Path) (key : RealPath) : Bool :=
  Buffer.isUnder root (RealPath.toPath key)

namespace FileSystem

/-- One event for a real path, if it is watched. -/
def notice (root : Path) (kind : ChangeKind) (key : RealPath) : List ChangeEvent :=
  if isWatched root key then [⟨kind, [RealPath.toPath key]⟩] else []

/-- An entry is put at a real path. -/
def noticePut (fs : FileSystem) (root : Path) (key : RealPath) : List ChangeEvent :=
  ((fs.missingAbove key).flatMap (notice root .created)) ++
    notice root (if (fs.entryAt? key).isSome then .modified else .created) key

/-- What is reported of an edit to the file system before it. -/
def notices (fs : FileSystem) (root : Path) : Edit → List ChangeEvent
  | .write path _ _ => fs.noticePut root (fs.place true path)
  | .makeDir path =>
      let key := fs.place true path
      if fs.entryAt? key = some .directory then [] else fs.noticePut root key
  | .link path _ => fs.noticePut root (fs.place false path)
  | .makeUnreadable path => fs.noticePut root (fs.place false path)
  | .remove path =>
      let key := fs.place false path
      let gone := (fs.entries.map Prod.fst).filter key.isPrefixOf
      (RealPath.sort gone).reverse.flatMap (notice root .removed)
  | .rename path target =>
      notice root .renamedAway (fs.place false path) ++
        notice root .renamed (fs.place false target)

end FileSystem

namespace Maintainer

/-- Makes an edit, of which a watching maintainer is told. -/
def observe (fs : FileSystem) (m : Maintainer) (edit : Edit) :
    Logged (FileSystem × Maintainer) := do
  let after := fs.apply edit
  if !m.isWatching then return (after, m)
  let m ← (fs.notices m.scope.root edit).foldlM (handle after) m
  return (after, m)

/-- Makes edits one after the other. -/
def observeAll (fs : FileSystem) (m : Maintainer) (edits : List Edit) :
    Logged (FileSystem × Maintainer) :=
  edits.foldlM (fun (fs, m) edit => observe fs m edit) (fs, m)

end Maintainer

end SymbolIndex
