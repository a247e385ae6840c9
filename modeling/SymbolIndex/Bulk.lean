-- SUMMARY: Bulk runs: every eligible file of a listing becomes a document, batch by batch.
import SymbolIndex.Document.Build
import SymbolIndex.Lister
import SymbolIndex.Store.Basic

/-! # Bulk runs

A bulk run builds one document per eligible file of a listing and imports them
in batches. Nothing is tried again: files that cannot be read and batches that
fail are counted, and the run carries on. The room for a full batch is made
before the first file is listed, and a run that cannot have it panics there. -/

namespace SymbolIndex

/-! ## Eligibility and outcome -/

/-- The path is indexable and leads to a regular file within the size limit. -/
def Config.isEligible (config : Config) (fs : FileSystem) (root path : Path) : Bool :=
  config.isIndexable path root &&
    match fs.metadata path with
    | .ok m => m.isFile && m.size ≤ config.maxFileBytes.toNat
    | .error _ => false

structure BulkReport where
  /-- Documents that the store took. -/
  indexed : Nat := 0
  /-- Files that could not be read and documents that the store refused. -/
  errors : Nat := 0
  /-- Imports that failed as a whole. -/
  failedBatches : Nat := 0
  deriving DecidableEq, Repr

/-! ## Batches -/

/-- A bulk run under way, over a store in state `σ`. -/
structure BulkRun (σ : Type) where
  store : σ
  /-- Documents that are not imported yet. -/
  batch : List IndexDocument := []
  report : BulkReport := {}
  /-- Of the last file. -/
  subsystem : String := ""
  /-- Documents indexed at the last progress line. -/
  announced : Nat := 0

namespace BulkRun

variable {σ : Type} (ops : DocumentStore σ)

/-- Imports the batch. -/
def flush (run : BulkRun σ) : Logged (BulkRun σ) := do
  if run.batch.isEmpty then return run
  let (outcome, store) ← ops.importDocuments run.batch run.store
  let report := run.report
  match outcome with
  | .ok summary =>
      summary.errors.forM fun message =>
        LogLevel.debug.write ("Import rejected document: " ++ message)
      return { run with
        store, batch := []
        report := { report with
          indexed := report.indexed + summary.imported
          errors := report.errors + summary.failed } }
  | .error e =>
      LogLevel.error.write ("Batch import of " ++ toString run.batch.length ++
        " documents failed: " ++ e.message)
      return { run with
        store, batch := []
        report := { report with
          failedBatches := report.failedBatches + 1
          errors := report.errors + run.batch.length } }

/-- Notes where the run is when it comes to another subsystem. -/
def enter (fs : FileSystem) (root path : Path) (run : BulkRun σ) : Logged (BulkRun σ) :=
  match fs.relativePath path root with
  | .error _ => pure run
  | .ok relative => do
      let subsystem := subsystemOf relative
      if subsystem = run.subsystem then return run
      LogLevel.info.writeParts [.text "[", .elapsed, .text ("] subsystem: " ++ subsystem ++
        "  (total so far: " ++ toString run.report.indexed ++ ")")]
      return { run with subsystem }

/-- Notes the progress. A run takes no time, so only an interval of zero seconds
is ever over. -/
def announce (config : Config) (run : BulkRun σ) : Logged (BulkRun σ) := do
  if config.progressIntervalSecs ≠ 0 then return run
  LogLevel.info.writeParts [.text "[", .elapsed,
    .text ("] " ++ toString run.report.indexed ++ " files indexed  ("),
    .rate (run.report.indexed - run.announced),
    .text (" files/s)  errors=" ++ toString run.report.errors)]
  return { run with announced := run.report.indexed }

/-- Takes one listed file. -/
def take (parse : Parser) (fs : FileSystem) (config : Config) (root : Path) (run : BulkRun σ) :
    Listed → Logged (BulkRun σ)
  | .notText name => do
      LogLevel.warn.write ("Skipping non UTF-8 path from git: [" ++
        ", ".intercalate (name.map fun b => toString b.toNat) ++ "]")
      return run
  | .problem text => do
      LogLevel.warn.write ("Walk error: " ++ text)
      return run
  | .file path => do
      if !config.isEligible fs root path then return run
      let run ← run.enter fs root path
      match ← buildDocumentLogged parse fs config root path with
      | .error e =>
          LogLevel.warn.write e.message
          return { run with report := { run.report with errors := run.report.errors + 1 } }
      | .ok doc =>
          let run := { run with batch := run.batch ++ [doc] }
          if run.batch.length < config.batchSize.toNat then return run
          let run ← run.flush ops
          run.announce config

end BulkRun

/-! ## Room for a batch -/

/-- The bytes that a document takes in a batch: three words for each of its seventeen
texts and lists, and two words for its numbers. -/
def IndexDocument.bytes : Nat := 17 * 24 + 16

/-- The bytes of the longest buffer that there can be. -/
def bufferLimit : Nat := 1 <<< 63 - 8

namespace Config

variable (config : Config)

/-- The bytes that a full batch takes. -/
def batchBytes : Nat := config.batchSize.toNat * IndexDocument.bytes

/-- A full batch is a buffer, and there are as many bytes to be had. -/
def HasRoom (memory : Nat) : Prop :=
  config.batchBytes ≤ bufferLimit ∧ config.batchBytes ≤ memory

instance (memory : Nat) : Decidable (config.HasRoom memory) :=
  inferInstanceAs (Decidable (_ ∧ _))

/-- What a run comes to that has no room for a batch. -/
def batchPanic : Panic :=
  if bufferLimit < config.batchBytes then .capacityOverflow
  else .outOfMemory config.batchBytes

end Config

/-! ## Runs -/

/-- Indexes every eligible file that the lister finds below `root`, with `memory`
bytes to be had. The collection is made sure of first; with `reset` it is emptied. -/
def bulkIndex {σ : Type} (memory : Nat) (ops : DocumentStore σ) (parse : Parser)
    (lister : Lister) (config : Config) (fs : FileSystem) (root : Path) (reset : Bool)
    (store : σ) : Logged (Exit BulkReport × σ) := do
  let (ensured, store) ← ops.ensureCollection reset store
  if let .error e := ensured then return (.error e, store)
  LogLevel.info.write ("Indexing source files under: " ++ root.display)
  LogLevel.info.write ("Extensions: " ++ ", ".intercalate config.includeExtensions)
  if ¬ config.HasRoom memory then return (.panic config.batchPanic, store)
  match lister fs root with
  | .error e => return (.error e, store)
  | .ok listed =>
      let run ← listed.foldlM (BulkRun.take ops parse fs config root) { store }
      let run ← run.flush ops
      LogLevel.info.writeParts [.text "Done in ", .elapsed,
        .text (". Indexed " ++ toString run.report.indexed ++ " files  ("),
        .rate run.report.indexed, .text (" files/s)  errors=" ++ toString run.report.errors)]
      return (.ok run.report, run.store)

end SymbolIndex
