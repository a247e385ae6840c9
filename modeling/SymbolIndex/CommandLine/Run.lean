-- SUMMARY: Running a command: what it prints, its exit code, and the server's side of it.
import SymbolIndex.Bulk
import SymbolIndex.CommandLine.Command
import SymbolIndex.Config.Format
import SymbolIndex.Query.Files
import SymbolIndex.Store.Remote
import SymbolIndex.Watch.Notice

/-! # Running commands

A command runs against a file system and a server. It prints a text, writes a
log, and ends well or with a failure, whose message comes last on the error
output. Arguments that make no command end with code 2, failures with code 1. A
panic is a failure with a code of its own. -/

namespace SymbolIndex.CommandLine

/-! ## Outcomes -/

/-- Why a command fails. -/
inductive Failure where
  | error (e : Error)
  | batchesFailed (batches errors : Nat)
  | nothingInIndex
  | nothingGiven
  | nothingFound (arguments : List String)
  | panicked (p : Panic)
  deriving DecidableEq, Repr

namespace Failure

def message : Failure → String
  | error e => e.message
  | batchesFailed batches errors =>
      toString batches ++ " batch imports failed (" ++ toString errors ++ " errors)"
  | nothingInIndex => "No matching files found in index."
  | nothingGiven => "Give FILE_OR_PATTERN arguments or --search QUERY"
  | nothingFound arguments => "No .cs files found: " ++ " ".intercalate arguments
  | panicked p => p.message

def cause? : Failure → Option String
  | error e => e.cause?
  | _ => none

/-- The message and its cause. A panic has its message alone. -/
def report : Failure → String
  | panicked p => p.message ++ "\n"
  | f => "Error: " ++ f.message ++ (f.cause?.map ("\n\nCaused by:\n    " ++ ·)).getD "" ++ "\n"

/-- The code that the program ends with. -/
def code : Failure → Nat
  | panicked p => p.exitCode
  | _ => 1

end Failure

/-- What a command prints besides the log. -/
structure Printed where
  output : String := ""
  /-- On the error output, behind the log. -/
  remark : String := ""
  failure : Option Failure := none
  deriving DecidableEq, Repr

def Printed.ofFailure (f : Failure) : Printed := { failure := some f }

def Printed.ofError (e : Error) : Printed := .ofFailure (.error e)

/-! ## Surroundings -/

inductive Interrupt where
  | interrupted
  | terminated
  deriving DecidableEq, Repr

/-- The number of the signal. -/
def Interrupt.number : Interrupt → Nat
  | interrupted => 2
  | terminated => 15

/-- Edits while the tree is watched, and the number of requests that the server
has had when the next ones are made. -/
structure Round where
  edits : List Edit
  requests : Nat
  deriving DecidableEq, Repr

/-- Everything a command meets. -/
structure Surroundings where
  parse : Parser
  files : FileSystem
  repository : Option Repository := none
  /-- While the tree is watched. -/
  rounds : List Round := []
  /-- Ends the watch. -/
  interrupt : Interrupt := .terminated
  /-- Bytes that the program can have at once. -/
  memory : Nat := 1 <<< 47
  /-- Whether another thread can be had. -/
  thread : Except IoError Unit := .ok ()

variable (world : Surroundings)

/-! ## Indexing and watching -/

def runIndex (config : Config) (reset : Bool) (server : Exchange) :
    Logged (Printed × Exchange) := do
  match config.canonicalSrcRoot world.files with
  | .error e => return (.ofError e, server)
  | .ok root =>
      let store := RemoteStore.ofConfig config.store
      let (report, server) ← bulkIndex world.memory store.operations world.parse
        (Lister.standard world.repository) config world.files root reset server
      match report with
      | .error e => return (.ofError e, server)
      | .panic p => return (.ofFailure (.panicked p), server)
      | .ok report =>
          if report.failedBatches = 0 then return ({}, server)
          else return (.ofFailure (.batchesFailed report.failedBatches report.errors), server)

/-- Goes through a round. While the server has not had all its requests, the
quiet period passes. -/
def runRound (store : RemoteStore) (state : FileSystem × Maintainer × Exchange) (round : Round) :
    Logged (FileSystem × Maintainer × Exchange) := do
  let (files, maintainer, server) := state
  let (files, maintainer) ← maintainer.observeAll files round.edits
  if server.requests.length < round.requests then
    let (maintainer, server) ← maintainer.settle store.operations world.parse files server
    return (files, maintainer, server)
  else return (files, maintainer, server)

/-- Watches a tree until the interrupt. -/
def keepWatching (store : RemoteStore) (maintainer : Maintainer) (server : Exchange) :
    Logged (Printed × Exchange) := do
  let (started, maintainer) ← maintainer.start world.thread (maintainer.install world.files)
  match started with
  | .error e =>
      let (_, server) ← maintainer.stop store.operations world.parse world.files server
      return (.ofError e, server)
  | .ok () =>
      let (files, maintainer, server) ←
        world.rounds.foldlM (runRound world store) (world.files, maintainer, server)
      LogLevel.info.write ("Received signal " ++ toString world.interrupt.number ++
        ", flushing and stopping")
      let (_, server) ← maintainer.stop store.operations world.parse files server
      return ({}, server)

def runWatch (config : Config) (server : Exchange) : Logged (Printed × Exchange) := do
  match config.canonicalSrcRoot world.files with
  | .error e => return (.ofError e, server)
  | .ok root =>
      let store := RemoteStore.ofConfig config.store
      let (ensured, server) ← store.ensureCollection false server
      if let .error e := ensured then return (.ofError e, server)
      match ← Maintainer.ofRoot world.files config root with
      | .error e => return (.ofError e, server)
      | .ok maintainer => keepWatching world store maintainer server

/-! ## Searching -/

def runSearch (config : Config) (request : SearchRequest) (showFacets asJson : Bool)
    (server : Exchange) : Logged (Printed × Exchange) := do
  let (found, server) ← (RemoteStore.ofConfig config.store).search request.params server
  match found with
  | .error e => return (.ofError e, server)
  | .ok response =>
      let output :=
        if asJson then response.toJson.renderIndented 0 ++ "\n"
        else response.render request showFacets
      return ({ output }, server)

/-- The files that a query is about. -/
def queryTargets (config : Config) (options : QueryOptions) (server : Exchange) :
    Logged (Except Failure (List Path) × Exchange) := do
  match options.search with
  | some query =>
      let request := SearchRequest.forQuery query options.searchSubsystem
        (some options.searchExtension) options.searchLimit
      let (found, server) ← (RemoteStore.ofConfig config.store).search request.params server
      match found with
      | .error e => return (.error (.error e), server)
      | .ok response =>
          let files ← responseFiles world.files config.srcRoot request response
          return (if files.isEmpty then .error .nothingInIndex else .ok files, server)
  | none =>
      if options.arguments.isEmpty then return (.error .nothingGiven, server)
      let files ← expandArguments world.files options.arguments
      return (if files.isEmpty then .error (.nothingFound options.arguments) else .ok files, server)

/-- The argument may name several files. -/
def hasWildcard (argument : String) : Bool := argument.toList.any fun c => c = '*' || c = '?'

/-- Prints the hits in each file, and how many there are. -/
def printHits (options : QueryOptions) (files : List Path) : Logged Printed := do
  let severalPossible := options.arguments.any hasWildcard || options.search.isSome
  let display : DisplayOptions :=
    { showPath := shouldShowPath options.noPath files.length severalPossible
      countOnly := options.countOnly
      context := options.context }
  let found ← queryFiles world.parse world.files options.mode files
  match FileHits.printAll options.mode display found with
  | (output, .error p) => return { output, failure := some (.panicked p) }
  | (output, .ok total) =>
      if options.countOnly then
        return { output := output ++ "\nTotal: " ++ toString total ++ "\n" }
      else if 1 < files.length then
        return {
          output
          remark := "\n(" ++ toString total ++ " matches across " ++ toString files.length ++
            " files)\n" }
      else return { output }

def runQuery (config : Config) (options : QueryOptions) (server : Exchange) :
    Logged (Printed × Exchange) := do
  let (targets, server) ← queryTargets world config options server
  match targets with
  | .error f => return (.ofFailure f, server)
  | .ok files => return (← printHits world options files, server)

/-! ## Status -/

def statusTitle : String :=
  "-- Codesearch Status --------------------------------------------\n"

/-- The line about the collection. -/
def statsLine (store : RemoteStore) : Option CollectionStats → String
  | some stats =>
      "  Index   : " ++ toString stats.numDocuments ++ " documents in '" ++ stats.name ++ "'\n"
  | none =>
      "  Index   : collection '" ++ store.collection ++
        "' not found - run: codesearch index --reset\n"

def runStatus (config : Config) (server : Exchange) : Logged (Printed × Exchange) := do
  let store := RemoteStore.ofConfig config.store
  let url := config.store.baseUrl
  let (health, server) ← store.health server
  match health with
  | .error e =>
      let output := statusTitle ++ "  Server  : [--] " ++ e.message ++
        "\n  Index   : (server unavailable)\n"
      return ({ output }, server)
  | .ok isHealthy =>
      let line :=
        if isHealthy then "  Server  : [OK]  " ++ url ++ "\n"
        else "  Server  : [!!] " ++ url ++ " failed its health check\n"
      match store.statsStep server with
      | (.error e, server) =>
          return ({ output := statusTitle ++ line, failure := some (.error e) }, server)
      | (.ok stats, server) =>
          return ({ output := statusTitle ++ line ++ statsLine store stats }, server)

/-! ## Commands -/

def Command.run (config : Config) (server : Exchange) : Command → Logged (Printed × Exchange)
  | index reset source => runIndex world (config.withSrcRoot source) reset server
  | watch source => runWatch world (config.withSrcRoot source) server
  | search request showFacets asJson => runSearch config request showFacets asJson server
  | query options => runQuery world config options server
  | status => runStatus config server

/-- Finds the configuration and runs the command. -/
def Invocation.run (i : Invocation) (server : Exchange) : Logged (Printed × Exchange) := do
  match ← Config.resolve world.files i.config with
  | .error e => return (.ofError e, server)
  | .ok config => i.command.run world config server

/-- The end of a run. -/
structure Outcome where
  code : Nat
  output : String := ""
  log : List LogLine := []
  /-- On the error output, behind the log. -/
  remark : String := ""
  deriving DecidableEq, Repr

def versionNumber : String := "0.1.0"

def Ending.outcome : Ending → Outcome
  | usage => { code := 2 }
  | help => { code := 0 }
  | version program => { code := 0, output := program ++ " " ++ versionNumber ++ "\n" }

/-- The lines of a log that are shown. -/
def shownLines (verbose : Bool) (log : List LogLine) : List LogLine :=
  log.filter fun line => line.level.isShown verbose

/-- Runs the program with some arguments. -/
def run (args : List String) (server : Exchange) : Outcome × Exchange :=
  match Invocation.ofArguments args with
  | .error ending => (ending.outcome, server)
  | .ok invocation =>
      let ran := invocation.run world server
      let (printed, server) := ran.value
      ({ code := (printed.failure.map Failure.code).getD 0
         output := printed.output
         log := shownLines invocation.verbose ran.log
         remark := printed.remark ++ (printed.failure.map Failure.report).getD "" }, server)

end SymbolIndex.CommandLine
