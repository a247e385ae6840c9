-- SUMMARY: Configuration files: reading, checking, writing, and the lookup of the default file.
import SymbolIndex.Config
import SymbolIndex.Error
import SymbolIndex.Json.Record
import SymbolIndex.Log

/-! # Configuration files

A configuration file is a JSON record. What it leaves out keeps its default,
and what it adds is skipped. -/

namespace SymbolIndex

open Json (RecordField Reader)

/-! ## Reading -/

/-- Reads an integer of 64 bits. -/
def Json.word64 (expected : String) : Reader UInt64 := fun bs =>
  (Json.unsigned Json.wordLimit expected bs).map fun (n, rest) => (.ofNat n, rest)

/-- Reads an integer of 16 bits. -/
def Json.word16 (expected : String) : Reader UInt16 := fun bs =>
  (Json.unsigned 65535 expected bs).map fun (n, rest) => (.ofNat n, rest)

def Json.string : Reader String := Json.textAs "a string"

def Json.strings : Reader (List String) := Json.sequence Json.string

def Json.path : Reader Path := fun bs =>
  (Json.textAs "path string" bs).map fun (s, rest) => (Path.ofString s, rest)

def StoreConfig.fields : List (RecordField StoreConfig) :=
  [.set "host" Json.string ({ · with host := · }),
    .set "port" (Json.word16 "u16") ({ · with port := · }),
    .set "protocol" Json.string ({ · with protocol := · }),
    .set "api_key" Json.string ({ · with apiKey := · }),
    .set "collection" Json.string ({ · with collection := · }),
    .set "connection_timeout_secs" (Json.word64 "u64") ({ · with connectionTimeoutSecs := · })]

def StoreConfig.read : Reader StoreConfig := Json.record "struct StoreConfig" fields {}

namespace Config

def fields : List (RecordField Config) :=
  [.set "store" StoreConfig.read ({ · with store := · }),
    .set "src_root" (Json.optional Json.path) ({ · with srcRoot := · }),
    .set "include_extensions" Json.strings ({ · with includeExtensions := · }),
    .set "exclude_dirs" Json.strings ({ · with excludeDirs := · }),
    .set "max_file_bytes" (Json.word64 "u64") ({ · with maxFileBytes := · }),
    .set "max_content_chars" (Json.word64 "usize") ({ · with maxContentChars := · }),
    .set "batch_size" (Json.word64 "usize") ({ · with batchSize := · }),
    .set "debounce_ms" (Json.word64 "u64") ({ · with debounceMs := · }),
    .set "progress_interval_secs" (Json.word64 "u64") ({ · with progressIntervalSecs := · })]

def read : Reader Config := Json.record "struct Config" fields {}

/-- The configuration that a text describes. -/
def parse (input : Bytes) : Except Json.Failure Config := Json.decode read input

/-! ## Checking -/

def problem? (c : Config) : Option ConfigProblem :=
  if c.batchSize = 0 then some .zeroBatch
  else if Text.trim c.store.collection = "" then some .blankCollection
  else none

/-- Reads and checks a configuration file. -/
def load (fs : FileSystem) (file : Path) : Result Config := do
  let text ← (fs.readText file).mapError (.fileRead file)
  let config ← (parse (Utf8.encode text)).mapError fun failure => .config (.malformed file failure)
  match config.problem? with
  | some problem => .error (.config problem)
  | none => .ok config

/-- Looked for in the working directory if no file is named. -/
def defaultFile : Path := .ofString "codesearch.json"

/-- The configuration of the named file, or of the default file if there is
one, or the default configuration. -/
def resolve (fs : FileSystem) (explicit : Option Path) : Logged (Result Config) :=
  match explicit with
  | some file => pure (load fs file)
  | none =>
      if fs.isFile defaultFile then do
        LogLevel.debug.write ("Loading configuration from " ++ defaultFile.display)
        pure (load fs defaultFile)
      else pure (.ok {})

/-! ## Source root -/

def requireSrcRoot (c : Config) : Result Path :=
  match c.srcRoot with
  | some root => .ok root
  | none => .error (.config .noSourceRoot)

/-- The source root as an absolute path without links. -/
def canonicalSrcRoot (fs : FileSystem) (c : Config) : Result Path := do
  let root ← c.requireSrcRoot
  (fs.canonicalize root).mapError fun cause => .config (.unresolvedSourceRoot root cause)

/-! ## Writing -/

end Config

def StoreConfig.toJson (c : StoreConfig) : Json :=
  .object [
    ("host", .text c.host),
    ("port", .ofNat c.port.toNat),
    ("protocol", .text c.protocol),
    ("api_key", .text c.apiKey),
    ("collection", .text c.collection),
    ("connection_timeout_secs", .ofNat c.connectionTimeoutSecs.toNat)]

/-- The configuration as a JSON record with every field. -/
def Config.toJson (c : Config) : Json :=
  .object [
    ("store", c.store.toJson),
    ("src_root", (c.srcRoot.map fun root => .text root.display).getD .null),
    ("include_extensions", .ofTexts c.includeExtensions),
    ("exclude_dirs", .ofTexts c.excludeDirs),
    ("max_file_bytes", .ofNat c.maxFileBytes.toNat),
    ("max_content_chars", .ofNat c.maxContentChars.toNat),
    ("batch_size", .ofNat c.batchSize.toNat),
    ("debounce_ms", .ofNat c.debounceMs.toNat),
    ("progress_interval_secs", .ofNat c.progressIntervalSecs.toNat)]

end SymbolIndex
