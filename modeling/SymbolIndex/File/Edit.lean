-- SUMMARY: Changes to a file system, by path.
import SymbolIndex.File.System

/-! # Edits

What other programs do to the tree while it is indexed: files are written,
removed and renamed, directories and links are made. -/

namespace SymbolIndex

/-- One change, by paths relative to the working directory. -/
inductive Edit where
  | write (path : Path) (content : Bytes) (mtime : Int)
  | makeDir (path : Path)
  | link (path target : Path)
  /-- Removes a file, a link, or a directory with all it holds. -/
  | remove (path : Path)
  | rename (path target : Path)
  /-- Makes a file whose reading fails. -/
  | makeUnreadable (path : Path)
  deriving DecidableEq, Repr

namespace FileSystem

/-- The file that cannot be read. It lies outside every tree, which only holds
links to it. -/
def unreadableFile : RealPath := ["proc", "self", "mem"].map Utf8.encode

def apply (fs : FileSystem) : Edit → FileSystem
  | .write path content mtime => fs.put (fs.place true path) (.file content mtime)
  | .makeDir path => fs.makeDir (fs.place true path)
  | .link path target => fs.put (fs.place false path) (.symlink target)
  | .remove path => fs.removeTree (fs.place false path)
  | .rename path target => fs.rename (fs.place false path) (fs.place false target)
  | .makeUnreadable path =>
      (fs.put unreadableFile .unreadable).put (fs.place false path)
        (.symlink (RealPath.toPath unreadableFile))

def applyAll (fs : FileSystem) (edits : List Edit) : FileSystem := edits.foldl apply fs

/-- A file system that holds an empty working directory and nothing else. -/
def scratch (workingDir : RealPath) : FileSystem :=
  FileSystem.makeDir ⟨[], workingDir⟩ workingDir

end FileSystem

end SymbolIndex
