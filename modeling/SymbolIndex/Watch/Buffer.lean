-- SUMMARY: The buffer of a watcher: pending actions and the files believed to be indexed.
import SymbolIndex.Log
import SymbolIndex.Watch.Event
import SymbolIndex.Watch.Scope

/-! # Buffer

Between two flushes the buffer holds the last action of each path. Events for
directories are replaced by actions for the files they cover; for a directory
that is gone these are the files the buffer knows of. -/

namespace SymbolIndex

structure Buffer where
  /-- No two entries have the same path. -/
  pending : List PathAction := []
  /-- Files believed to be in the store, each once. -/
  indexed : List Path := []
  deriving DecidableEq, Repr

namespace Buffer

/-- Notes an action. It takes the place of an earlier one for the same path. -/
def insertInto (p : PathAction) : List PathAction → List PathAction
  | [] => [p]
  | q :: rest => if q.1.same p.1 then (q.1, p.2) :: rest else q :: insertInto p rest

def insert (b : Buffer) (p : PathAction) : Buffer := { b with pending := insertInto p b.pending }

/-- Adds files to those believed to be indexed. -/
def remember (b : Buffer) (paths : List Path) : Buffer :=
  { b with indexed := Path.distinct (b.indexed ++ paths) }

/-- Takes a file out of those believed to be indexed. -/
def forget (b : Buffer) (path : Path) : Buffer :=
  { b with indexed := b.indexed.filter fun p => !p.same path }

/-- The path lies strictly below `dir`. -/
def isUnder (dir path : Path) : Bool := path.startsWith dir && !path.same dir

/-- The files indexed or pending strictly below a directory. -/
def knownUnder (b : Buffer) (dir : Path) : List Path :=
  b.indexed.filter (isUnder dir) ++ (b.pending.map Prod.fst).filter (isUnder dir)

/-! ## Intake -/

/-- The actions for files that an action for a path amounts to. A directory
that was reported gone and is still there needs none. -/
def expand (fs : FileSystem) (scope : Scope) (b : Buffer) (p : PathAction) : List PathAction :=
  if fs.isDir p.1 then
    match p.2 with
    | .upsert => (scope.filesUnder fs p.1).map (·, .upsert)
    | .delete => []
  else if scope.isEligible p.1 then [p]
  else if p.2 = .delete && !fs.exists? p.1 then (b.knownUnder p.1).map (·, .delete)
  else []

/-- The buffer after the actions, whether or not there are any. -/
def insertAll (b : Buffer) (actions : List PathAction) : Buffer := actions.foldl insert b

/-- Takes in the actions of an event, expanded one by one against the buffer as
it was. Tells whether anything was accepted. -/
def record (fs : FileSystem) (scope : Scope) (b : Buffer) (actions : List PathAction) :
    Logged (Buffer × Bool) := do
  (actions.filter fun p => p.2 = .upsert && fs.isDir p.1).forM fun p => Scope.noteProblem fs p.1
  let expanded := actions.flatMap (b.expand fs scope)
  expanded.forM fun p =>
    LogLevel.debug.write ("Pending " ++ p.2.name ++ ": " ++ p.1.display)
  return (b.insertAll expanded, !expanded.isEmpty)

end Buffer

end SymbolIndex
