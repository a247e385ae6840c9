-- SUMMARY: Flushing a buffer: the disk decides what is imported and what is deleted.
import SymbolIndex.Document.Build
import SymbolIndex.Store.Basic
import SymbolIndex.Watch.Buffer

/-! # Flush

A flush trusts the disk more than the events. Every pending path is looked at
again: what is there is imported, in one batch, and what is gone is deleted by
its id. The steps are separate functions, since events may come between them. -/

namespace SymbolIndex

structure FlushReport where
  upserted : Nat := 0
  deleted : Nat := 0
  /-- Files over the size limit. -/
  skipped : Nat := 0
  errors : Nat := 0
  deriving DecidableEq, Repr

/-- What a flush is going to do. -/
structure FlushPlan where
  upserts : List (IndexDocument × Path) := []
  /-- Ids of documents, with the paths they were built from. -/
  deletes : List (String × Path) := []
  report : FlushReport := {}
  deriving DecidableEq, Repr

/-! ## Planning -/

namespace FlushPlan

def addError (plan : FlushPlan) : FlushPlan :=
  { plan with report := { plan.report with errors := plan.report.errors + 1 } }

/-- Plans for a regular file. -/
def addFile (parse : Parser) (fs : FileSystem) (scope : Scope) (plan : FlushPlan) (size : Nat)
    (p : PathAction) : Logged FlushPlan := do
  if scope.config.maxFileBytes.toNat < size then
    LogLevel.debug.write ("Skipping oversized " ++ p.1.display)
    return { plan with report := { plan.report with skipped := plan.report.skipped + 1 } }
  if p.2 = .delete then
    LogLevel.debug.write (p.1.display ++ " exists again, upserting")
  match ← buildDocumentLogged parse fs scope.config scope.root p.1 with
  | .ok doc => return { plan with upserts := plan.upserts ++ [(doc, p.1)] }
  | .error e =>
      LogLevel.warn.write e.message
      return plan.addError

/-- Plans for a path that is gone. -/
def addMissing (fs : FileSystem) (scope : Scope) (plan : FlushPlan) (path : Path) :
    Logged FlushPlan :=
  match fs.relativePath path scope.root with
  | .ok relative => return { plan with deletes := plan.deletes ++ [(fileId relative, path)] }
  | .error e => do
      LogLevel.warn.write (Error.io e).message
      return plan.addError

/-- Plans for one pending path. What is neither a file nor gone needs nothing. -/
def add (parse : Parser) (fs : FileSystem) (scope : Scope) (plan : FlushPlan) (p : PathAction) :
    Logged FlushPlan :=
  match fs.metadata p.1 with
  | .ok m => if m.isFile then plan.addFile parse fs scope m.size p else pure plan
  | .error .notFound => plan.addMissing fs scope p.1
  | .error e => do
      LogLevel.warn.write ("Cannot stat " ++ p.1.display ++ ": " ++ e.message)
      return plan.addError

def ofPending (parse : Parser) (fs : FileSystem) (scope : Scope) (pending : List PathAction) :
    Logged FlushPlan :=
  pending.foldlM (add parse fs scope) {}

end FlushPlan

/-! ## Carrying out -/

/-- A flush under way: what it did so far, the buffer, and a store in state
`σ`. -/
structure FlushRun (σ : Type) where
  report : FlushReport
  buffer : Buffer
  store : σ

namespace FlushRun

variable {σ : Type} (ops : DocumentStore σ)

/-- Imports the planned documents. Tells whether the call went through. -/
def importAll (docs : List IndexDocument) (run : FlushRun σ) : Logged (Bool × FlushRun σ) := do
  let (outcome, store) ← ops.importDocuments docs run.store
  let report := run.report
  match outcome with
  | .ok summary =>
      return (true, { run with
        store
        report := { report with
          upserted := report.upserted + summary.imported
          errors := report.errors + summary.failed } })
  | .error e =>
      LogLevel.error.write ("Upsert of " ++ toString docs.length ++ " documents failed: " ++
        e.message)
      return (false, { run with
        store
        report := { report with errors := report.errors + docs.length } })

/-- Imports the planned documents, if there are any, and remembers their
files. -/
def upsertAll (plan : FlushPlan) (run : FlushRun σ) : Logged (FlushRun σ) := do
  if plan.upserts.isEmpty then return run
  let (went, run) ← run.importAll ops (plan.upserts.map Prod.fst)
  return if went then { run with buffer := run.buffer.remember (plan.upserts.map Prod.snd) } else run

/-- Deletes one document and forgets its file, unless the store fails. -/
def deleteOne (run : FlushRun σ) (target : String × Path) : Logged (FlushRun σ) := do
  let (id, path) := target
  let (outcome, store) ← ops.deleteDocument id run.store
  let report := run.report
  match outcome with
  | .ok true =>
      return { store, buffer := run.buffer.forget path
               report := { report with deleted := report.deleted + 1 } }
  | .ok false =>
      LogLevel.debug.write (path.display ++ " was not indexed")
      return { run with store, buffer := run.buffer.forget path }
  | .error e =>
      LogLevel.error.write ("Delete of " ++ path.display ++ " failed: " ++ e.message)
      return { run with store, report := { report with errors := report.errors + 1 } }

/-- Carries out a plan. -/
def carryOut (plan : FlushPlan) (buffer : Buffer) (store : σ) : Logged (FlushRun σ) := do
  let run ← FlushRun.upsertAll ops plan { report := plan.report, buffer, store }
  plan.deletes.foldlM (deleteOne ops) run

end FlushRun

/-- Empties the buffer into the store. -/
def Buffer.flush {σ : Type} (ops : DocumentStore σ) (parse : Parser) (fs : FileSystem)
    (scope : Scope) (buffer : Buffer) (store : σ) : Logged (FlushRun σ) := do
  if buffer.pending.isEmpty then return { report := {}, buffer, store }
  let plan ← FlushPlan.ofPending parse fs scope buffer.pending
  let run ← FlushRun.carryOut ops plan { buffer with pending := [] } store
  let report := run.report
  LogLevel.info.write ("Flushed: " ++ toString report.upserted ++ " upserted, " ++
    toString report.deleted ++ " deleted, " ++ toString report.skipped ++ " skipped, " ++
    toString report.errors ++ " errors")
  return run

end SymbolIndex
