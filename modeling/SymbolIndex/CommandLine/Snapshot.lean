-- SUMMARY: A file tree as a text, one record per file, with the syntax trees of its C# files.
import SymbolIndex.File.Edit
import SymbolIndex.Json.Value
import SymbolIndex.Symbols.Extraction
import SymbolIndex.Syntax.Listing

/-! # Snapshots

A snapshot holds the files that a command works on. Each line is a record with
the `path` and the `text` of a file and, for C# files, the listing of its syntax
`tree`. Lines that are no such record are skipped. -/

namespace SymbolIndex

structure Snapshot where
  files : FileSystem
  /-- Listings of syntax trees, by the bytes of the files. -/
  trees : List (Bytes × String) := []

namespace Snapshot

def empty : Snapshot := { files := FileSystem.scratch [] }

/-- Adds the file of a line. -/
def addLine (s : Snapshot) (line : String) : Snapshot :=
  match Json.parse (Utf8.encode line) with
  | .error _ => s
  | .ok value =>
      let textOf (name : String) : Option String := (value.field? name).bind Json.text?
      match textOf "path", textOf "text" with
      | some path, some text =>
          let content := Utf8.encode text
          { files := s.files.apply (.write (.ofString path) content 0)
            trees := (textOf "tree").toList.map (content, ·) ++ s.trees }
      | _, _ => s

def ofLines (lines : List String) : Snapshot := lines.foldl addLine empty

/-- The parser that knows the trees of the snapshot. -/
def parse (s : Snapshot) : Parser := fun bytes =>
  (s.trees.find? fun t => t.1 = bytes).bind fun t => Syntax.Node.ofListing? t.2

end Snapshot

end SymbolIndex
