-- SUMMARY: The configuration: defaults, tracked extensions and excluded components.
import SymbolIndex.File.Path
import SymbolIndex.Text.Names

/-! # Configuration

One configuration is read at the start and handed to everything else. It says
where the store is, which files belong to the index, and how the work is cut
into batches. -/

namespace SymbolIndex

/-! ## Store -/

/-- How to reach the document store. -/
structure StoreConfig where
  host : String := "localhost"
  port : UInt16 := 8108
  protocol : String := "http"
  apiKey : String := "codesearch-local"
  collection : String := "codesearch_files"
  connectionTimeoutSecs : UInt64 := 5
  deriving DecidableEq, Repr

/-- The address of the store, such as `http://localhost:8108`. -/
def StoreConfig.baseUrl (c : StoreConfig) : String :=
  c.protocol ++ "://" ++ c.host ++ ":" ++ toString c.port.toNat

/-! ## Configuration -/

def defaultExtensions : List String :=
  ["cs", "cpp", "c", "h", "hpp", "idl", "dsc", "inc", "props", "targets", "csproj", "py", "sh",
    "cmd", "bat", "ps1", "ts", "js", "json", "xml", "yaml", "yml", "md", "txt", "sql"]

def defaultExcludedDirs : List String :=
  ["Target", "Build", "Import", "nugetcache", ".git", "obj", "bin", "node_modules", ".venv",
    "target", "debug", "ship", "x64", "x86", "__pycache__", ".vs"]

structure Config where
  store : StoreConfig := {}
  /-- Root of the source tree. -/
  srcRoot : Option Path := none
  /-- Extensions in lower case, without a dot. -/
  includeExtensions : List String := defaultExtensions
  /-- Names of components that are never indexed, besides those with a leading
  dot. -/
  excludeDirs : List String := defaultExcludedDirs
  /-- Larger files are left out. -/
  maxFileBytes : UInt64 := 524288
  /-- Documents keep this many characters of a file. -/
  maxContentChars : UInt64 := 30000
  /-- Documents per import of a bulk run. -/
  batchSize : UInt64 := 50
  /-- Quiet period in milliseconds before the watcher flushes. -/
  debounceMs : UInt64 := 2000
  /-- Least time between two progress lines. -/
  progressIntervalSecs : UInt64 := 30
  deriving DecidableEq, Repr

namespace Config

/-- The configuration with another source root, if one is given. -/
def withSrcRoot (c : Config) : Option Path → Config
  | none => c
  | some root => { c with srcRoot := some root }

/-- An extension in any ASCII case, with or without leading dots, that the
index tracks. -/
def isTrackedExtension (c : Config) (extension : String) : Bool :=
  c.includeExtensions.contains
    (Text.lowerAscii (.ofList (extension.toList.dropWhile (· = '.'))))

/-- A component whose files are not indexed. -/
def isExcludedComponent (c : Config) (name : String) : Bool :=
  name.toList.head? == some '.' || c.excludeDirs.contains name

/-! ## Indexable paths -/

/-- Some component of a relative path is excluded. -/
def isExcludedPath (c : Config) (relative : Path) : Bool :=
  relative.components.any fun
    | .normal name => c.isExcludedComponent (Utf8.decode name)
    | _ => false

/-- The path lies under `root`, has a tracked extension, and no component below
`root` is excluded. -/
def isIndexable (c : Config) (path root : Path) : Bool :=
  match path.extension?, path.stripBase? root with
  | some extension, some relative =>
      c.isTrackedExtension (Utf8.decode extension) && !c.isExcludedPath relative
  | _, _ => false

end Config

end SymbolIndex
