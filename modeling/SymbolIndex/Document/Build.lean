-- SUMMARY: Building the document of a file: its relative path, its content and its symbols.
import SymbolIndex.Document.Basic
import SymbolIndex.Error
import SymbolIndex.Log
import SymbolIndex.Symbols.Extraction

/-! # Building documents -/

namespace SymbolIndex

/-! ## Relative paths -/

namespace FileSystem

/-- The two paths without links if both exist, and as written otherwise. -/
def bothCanonical (fs : FileSystem) (path root : Path) : Path × Path :=
  match fs.canonicalize path, fs.canonicalize root with
  | .ok path, .ok root => (path, root)
  | _, _ => (path, root)

/-- The text of `path` below `root`. Links are followed first; where that leads
out of the root, or where one of the two is gone, the paths count as written. -/
def relativePath (fs : FileSystem) (path root : Path) : Except IoError String :=
  let (realPath, realRoot) := fs.bothCanonical path root
  match realPath.stripBase? realRoot with
  | some relative => .ok relative.display
  | none =>
      match path.stripBase? root with
      | some relative => .ok relative.display
      | none => .error (.outsideRoot path root)

end FileSystem

/-! ## Documents -/

namespace SourceFile

/-- Reads a file and its attributes. Times before 1970 count as 1970. -/
def read (fs : FileSystem) (root path : Path) : Result SourceFile := do
  let metadata ← (fs.metadata path).mapError (.fileRead path)
  let bytes ← (fs.read path).mapError (.fileRead path)
  let relativePath ← (fs.relativePath path root).mapError .io
  .ok {
    path, relativePath, bytes
    extension := extensionOf path
    subsystem := subsystemOf relativePath
    mtime := if metadata.mtime < 0 then 0 else metadata.mtime }

end SourceFile

/-- Reads a file, extracts its symbols and makes its document. -/
def buildDocument (parse : Parser) (fs : FileSystem) (config : Config) (root path : Path) :
    Result IndexDocument := do
  let file ← SourceFile.read fs root path
  .ok (file.project (extractFile parse file.extension file.bytes) config)

/-- Notes how much was extracted for a document. -/
def IndexDocument.noteExtraction (doc : IndexDocument) : Logged Unit :=
  match Language.ofExtension? doc.extension with
  | some language =>
      LogLevel.debug.write ("Extracted " ++ toString doc.classNames.length ++ " types, " ++
        toString doc.methodNames.length ++ " members from " ++ language.name ++ " source")
  | none => pure ()

/-- Builds a document and notes how much was extracted for it. -/
def buildDocumentLogged (parse : Parser) (fs : FileSystem) (config : Config) (root path : Path) :
    Logged (Result IndexDocument) :=
  match buildDocument parse fs config root path with
  | .ok doc => do
      doc.noteExtraction
      pure (.ok doc)
  | .error e => pure (.error e)

@[simp] theorem value_buildDocumentLogged (parse : Parser) (fs : FileSystem) (config : Config)
    (root path : Path) :
    (buildDocumentLogged parse fs config root path).value =
      buildDocument parse fs config root path := by
  unfold buildDocumentLogged
  split <;> simp_all

end SymbolIndex
