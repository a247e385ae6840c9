-- SUMMARY: The maintainer of a watched index: construction, events, flushes, start and stop.
import SymbolIndex.Watch.Flush
import SymbolIndex.Watch.Timer

/-! # Maintainer

The maintainer keeps the store in step with a tree. It can take events and
flush at any time; while it runs, a timer flushes after each quiet period and
the tree is watched. -/

namespace SymbolIndex

structure Maintainer where
  scope : Scope
  buffer : Buffer := {}
  /-- The phase of the timer, while there is one. -/
  timer : Option Phase := none
  isWatching : Bool := false
  deriving Repr

namespace Maintainer

/-! ## Construction -/

/-- A maintainer for a directory, as a bulk run over it would leave the
store. -/
def ofRoot (fs : FileSystem) (config : Config) (root : Path) : Logged (Result Maintainer) := do
  match ← Scope.ofRoot fs config root with
  | .error e => return .error e
  | .ok scope =>
      Scope.noteProblem fs scope.root
      let existing := scope.filesUnder fs scope.root
      LogLevel.debug.write (toString existing.length ++ " indexable files under " ++
        scope.root.display)
      return .ok { scope, buffer := Buffer.remember {} existing }

def isRunning (m : Maintainer) : Bool := m.timer.isSome

/-- Paths that wait for a flush. -/
def pendingCount (m : Maintainer) : Nat := m.buffer.pending.length

/-! ## Events and flushes -/

/-- Takes in an event. What is accepted starts the quiet period again. -/
def handle (fs : FileSystem) (m : Maintainer) (e : ChangeEvent) : Logged Maintainer := do
  let (buffer, accepted) ← m.buffer.record fs m.scope (e.actions fs)
  let timer := if accepted then m.timer.map fun phase => (phase.receive .touch).1 else m.timer
  return { m with buffer, timer }

variable {σ : Type} (ops : DocumentStore σ) (parse : Parser) (fs : FileSystem)

/-- Flushes now, whatever the timer does. -/
def flush (m : Maintainer) (store : σ) : Logged (FlushReport × Maintainer × σ) := do
  let run ← m.buffer.flush ops parse fs m.scope store
  return (run.report, { m with buffer := run.buffer }, run.store)

/-- Lets a quiet period pass. -/
def settle (m : Maintainer) (store : σ) : Logged (Maintainer × σ) := do
  match m.timer.map Phase.quiet with
  | some (phase, true) =>
      let (_, m, store) ← m.flush ops parse fs store
      return ({ m with timer := some phase }, store)
  | _ => return (m, store)

/-! ## Start and stop -/

/-- Starts the timer, which takes a thread, and then the watch. There may be no
thread to be had, and the installation of the watch may fail. -/
def start (m : Maintainer) (thread : Except IoError Unit) (install : Except String Unit) :
    Logged (Result Unit × Maintainer) := do
  if m.isRunning then return (.error (.watch "already running"), m)
  if let .error cause := thread then return (.error (.io cause), m)
  let m := { m with timer := some .idle }
  match install with
  | .error problem => return (.error (.watch problem), m)
  | .ok () =>
      LogLevel.info.write ("Watching " ++ m.scope.root.display ++ " (debounce " ++
        toString m.scope.config.debounceMs.toNat ++ " ms)")
      return (.ok (), { m with isWatching := true })

/-- Whether the system can watch a directory: it has to exist. -/
def install (m : Maintainer) : Except String Unit :=
  match fs.metadata m.scope.root with
  | .ok _ => .ok ()
  | .error e => .error e.message

/-- Ends the watch and the timer, which flushes on its way out. -/
def stop (m : Maintainer) (store : σ) : Logged (Maintainer × σ) := do
  let m := { m with isWatching := false }
  if !m.isRunning then return (m, store)
  let (_, m, store) ← m.flush ops parse fs store
  LogLevel.info.write "Watcher stopped"
  return ({ m with timer := none }, store)

end Maintainer

end SymbolIndex
