-- SUMMARY: The files of a structural query, by pattern or by search, and running the query on them.
import SymbolIndex.Glob.Search
import SymbolIndex.Log
import SymbolIndex.Query.Display
import SymbolIndex.Query.Run
import SymbolIndex.Search.Response
import SymbolIndex.Symbols.Extraction

/-! # Query files

Files come from arguments (files, directories, patterns) or from a search whose
hits still exist. A file is named once, whatever its spellings. -/

namespace SymbolIndex

/-! ## Arguments -/

/-- An argument with a wildcard. -/
def isPattern (argument : String) : Bool :=
  argument.toList.any fun c => c = '*' || c = '?' || c = '['

/-- The extension `cs` in any ASCII case. -/
def isCSharp (p : Path) : Bool :=
  match p.extension? with
  | some extension => Text.lowerAscii (Utf8.decode extension) = "cs"
  | none => false

/-- The regular files that match a pattern, in order. -/
def patternFiles (fs : FileSystem) (pattern : String) : Logged (List Path) :=
  match Glob.search fs pattern with
  | .ok found => pure (Path.sort (found.filter fs.isFile))
  | .error e => do
      LogLevel.warn.write ("Invalid glob pattern " ++ Text.quoted pattern ++ ": " ++ e.message)
      pure []

/-- The files that one argument names. A directory stands for the C# files at
any depth. -/
def argumentFiles (fs : FileSystem) (argument : String) : Logged (List Path) :=
  let path := Path.ofString argument
  if isPattern argument then patternFiles fs argument
  else if fs.isDir path then patternFiles fs (path / "**" / "*.cs").display
  else if fs.isFile path then pure [path]
  else do
    LogLevel.warn.write ("No such file or directory: " ++ argument)
    pure []

/-- The C# files that the arguments name, in the order of the arguments. -/
def expandArguments (fs : FileSystem) (arguments : List String) : Logged (List Path) := do
  let found ← arguments.mapM (argumentFiles fs)
  pure (Path.distinct (found.flatten.filter isCSharp))

/-! ## Search hits -/

/-- Where the file of a hit may be: its stored path, and its relative path
below the source root. -/
def HitDocument.candidates (root? : Option Path) (d : HitDocument) : List Path :=
  (if d.path = "" then [] else [Path.ofString d.path]) ++
    match root? with
    | some root => if d.relativePath = "" then [] else [root / d.relativePath]
    | none => []

/-- The file of a hit, if it still exists. -/
def hitFile (fs : FileSystem) (root? : Option Path) (hit : SearchHit) : Logged (Option Path) :=
  match (hit.document.candidates root?).find? fs.isFile with
  | some path => pure (some path)
  | none => do
      LogLevel.debug.write ("Search hit " ++ hit.document.relativePath ++ " not found locally")
      pure none

/-- The files of the hits that still exist, in the order of the hits. -/
def responseFiles (fs : FileSystem) (root? : Option Path) (request : SearchRequest)
    (response : SearchResponse) : Logged (List Path) := do
  LogLevel.debug.write ("Search " ++ Text.quoted request.query ++ " returned " ++
    toString response.hits.length ++ " of " ++ toString response.found.toNat ++ " hits")
  let found ← response.hits.mapM (hitFile fs root?)
  pure (Path.distinct (found.filterMap id))

/-! ## Running a query -/

/-- The hits of a query in one file. -/
def queryFile (parse : Parser) (fs : FileSystem) (mode : QueryMode) (path : Path) :
    Result FileHits := do
  let bytes ← (fs.read path).mapError (.fileRead path)
  let source := Source.ofBytes bytes
  let hits := ((parse bytes).map (source.query · mode)).getD []
  .ok { path, hits, lines := source.lines }

/-- The hits of a query in each file that can be read. -/
def queryFiles (parse : Parser) (fs : FileSystem) (mode : QueryMode) (paths : List Path) :
    Logged (List FileHits) := do
  let found ← paths.mapM fun path =>
    match queryFile parse fs mode path with
    | .ok hits => pure (some hits)
    | .error e => do
        LogLevel.error.write e.message
        pure none
  pure (found.filterMap id)

end SymbolIndex
