-- SUMMARY: The commands of the program and the arguments they are made from.
import SymbolIndex.CommandLine.Arguments
import SymbolIndex.File.Path
import SymbolIndex.Query.Mode
import SymbolIndex.Search.Request

/-! # Commands

Arguments name a command between options that hold for every command and its
own options. Search modes exclude each other, and a query needs exactly one
query mode. -/

namespace SymbolIndex.CommandLine

/-! ## Commands -/

/-- How a structural query finds its files and prints its hits. -/
structure QueryOptions where
  mode : QueryMode
  /-- Files, directories and patterns. -/
  arguments : List String
  /-- Pick the files with this search instead. -/
  search : Option String
  searchSubsystem : Option String
  searchExtension : String
  searchLimit : UInt64
  noPath : Bool
  countOnly : Bool
  context : UInt64
  deriving DecidableEq, Repr

inductive Command where
  | index (reset : Bool) (source : Option Path)
  | watch (source : Option Path)
  | search (request : SearchRequest) (showFacets asJson : Bool)
  | query (options : QueryOptions)
  | status
  deriving DecidableEq, Repr

/-- What the arguments ask for. -/
structure Invocation where
  config : Option Path
  verbose : Bool
  command : Command
  deriving DecidableEq, Repr

/-- The result of reading arguments without running anything. -/
inductive Ending where
  | usage
  | help
  /-- The name to print in front of the version. -/
  | version (program : String)
  deriving DecidableEq, Repr

/-! ## Options -/

/-- A decimal number of 64 bits, with or without a plus sign. -/
def word64? (s : String) : Option UInt64 :=
  let digits := if s.toList.head? = some '+' then s.toList.drop 1 else s.toList
  if digits.isEmpty || !digits.all Char.isDigit then none
  else
    let n := digits.foldl (fun n c => n * 10 + (c.toNat - 48)) 0
    if n < 0x10000000000000000 then some (.ofNat n) else none

def flag (name : String) : OptionSpec := { name, kind := .flag }

def valued (name : String) : OptionSpec := { name, kind := .valued }

def pathValued (name : String) : OptionSpec :=
  { name, kind := .valued, accepts := fun s => s ≠ "" }

def numeric (name : String) : OptionSpec :=
  { name, kind := .valued, accepts := fun s => (word64? s).isSome }

/-- Options of every command. -/
def commonOptions : List OptionSpec :=
  [pathValued "config",
    { flag "verbose" with letter := some 'v' },
    { flag "help" with letter := some 'h' },
    { flag "version" with letter := some 'V' }]

def indexOptions : List OptionSpec := [flag "reset", pathValued "src"]

def watchOptions : List OptionSpec := [pathValued "src"]

/-- The options that choose a search mode. -/
def searchModes : List (String × SearchMode) :=
  [("symbols", .symbols), ("implements", .implements), ("callers", .callers), ("sig", .sig),
    ("uses", .uses), ("attr", .attr)]

def searchOptions : List OptionSpec :=
  searchModes.map (flag ·.1) ++
    [valued "ext", valued "sub", numeric "limit", flag "facets", flag "json"]

/-- The query modes that need no argument. -/
def plainQueryModes : List (String × QueryMode) :=
  [("classes", .classes), ("methods", .methods), ("fields", .fields), ("usings", .usings)]

/-- The query modes that look for a name or a type. -/
def namedQueryModes : List (String × (String → QueryMode)) :=
  [("calls", .calls), ("implements", .implements), ("uses", .uses), ("field-type", .fieldType),
    ("param-type", .paramType), ("casts", .casts), ("ident", .ident), ("find", .find),
    ("params", .params)]

def queryOptions : List OptionSpec :=
  plainQueryModes.map (flag ·.1) ++ namedQueryModes.map (valued ·.1) ++
    [{ name := "attrs", kind := .optional }, valued "search", valued "search-sub",
      valued "search-ext", numeric "search-limit", flag "no-path", flag "count",
      numeric "context"]

/-! ## Own options -/

namespace Given

def path? (g : Given) (name : String) : Option Path := (g.value? name).map Path.ofString

def number (g : Given) (name : String) (fallback : UInt64) : UInt64 :=
  ((g.value? name).bind word64?).getD fallback

/-- The one item that holds, or the fallback if none does. -/
def only (found : List α) (fallback : Option α) : Except Stop α :=
  match found, fallback with
  | [x], _ => .ok x
  | [], some x => .ok x
  | _, _ => .error .usage

def searchMode (g : Given) : Except Stop SearchMode :=
  only ((searchModes.filter fun m => g.has m.1).map Prod.snd) (some .text)

def queryMode (g : Given) : Except Stop QueryMode :=
  let plain := (plainQueryModes.filter fun m => g.has m.1).map Prod.snd
  let named := namedQueryModes.filterMap fun m => (g.value? m.1).map m.2
  let attrs := (g.value? "attrs").map fun name => QueryMode.attrs (some name |>.filter (· ≠ ""))
  only (plain ++ named ++ attrs.toList) none

def toSearch (g : Given) : Except Stop Command := do
  let mode ← g.searchMode
  match g.words with
  | [query] =>
      .ok (.search
        { query, mode, extension := g.value? "ext", subsystem := g.value? "sub",
          limit := g.number "limit" 10 }
        (g.has "facets") (g.has "json"))
  | _ => .error .usage

def toQuery (g : Given) : Except Stop Command := do
  let mode ← g.queryMode
  .ok (.query {
    mode
    arguments := g.words
    search := g.value? "search"
    searchSubsystem := g.value? "search-sub"
    searchExtension := (g.value? "search-ext").getD "cs"
    searchLimit := g.number "search-limit" 50
    noPath := g.has "no-path"
    countOnly := g.has "count"
    context := g.number "context" 0 })

end Given

/-! ## Reading -/

/-- A command by its name: its options, its room for words, and what becomes of
them. -/
structure CommandSpec where
  name : String
  options : List OptionSpec
  room : Nat
  make : Given → Except Stop Command

/-- More words than any command line has. -/
def unlimited : Nat := 0x10000000000000000

def commandSpecs : List CommandSpec :=
  [⟨"index", indexOptions, 0, fun g => .ok (.index (g.has "reset") (g.path? "src"))⟩,
    ⟨"watch", watchOptions, 0, fun g => .ok (.watch (g.path? "src"))⟩,
    ⟨"search", searchOptions, 1, Given.toSearch⟩,
    ⟨"query", queryOptions, unlimited, Given.toQuery⟩,
    ⟨"status", [], 0, fun _ => .ok .status⟩]

def programName : String := "codesearch"

def Stop.inProgram (program : String) : Stop → Ending
  | usage => .usage
  | help => .help
  | version => .version program

/-- Help is asked for by its own command, about all commands or one. -/
def helpEnding (rest : List String) : Ending :=
  match rest with
  | [] => .help
  | [name] => if name = "help" ∨ commandSpecs.any (·.name = name) then .help else .usage
  | _ => .usage

/-- What the arguments ask for. An option that holds for every command may
stand on both sides of the command; then the configuration behind it counts. -/
def Invocation.ofArguments (args : List String) : Except Ending Invocation := do
  let (before, rest) ←
    (readArguments commonOptions none none {} args).mapError (Stop.inProgram programName)
  match rest with
  | [] => .error .usage
  | name :: rest =>
      match commandSpecs.find? (·.name = name) with
      | none => .error (if name = "help" then helpEnding rest else .usage)
      | some spec =>
          let inProgram {α : Type} (result : Except Stop α) : Except Ending α :=
            result.mapError (Stop.inProgram (programName ++ "-" ++ spec.name))
          let (given, _) ← inProgram
            (readArguments (spec.options ++ commonOptions) (some spec.room) none {} rest)
          let command ← inProgram (spec.make given)
          .ok {
            config := (given.path? "config").or (before.path? "config")
            verbose := before.has "verbose" || given.has "verbose"
            command }

end SymbolIndex.CommandLine
