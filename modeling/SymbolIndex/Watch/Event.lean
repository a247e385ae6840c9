-- SUMMARY: Change events and the actions they ask for, path by path.
import SymbolIndex.File.System

/-! # Change events

A change event names a kind of change and the paths it concerns. Before a path
is checked against the scope of the index, an event asks for an upsert or a
delete of each path. Only renames without both ends look at the disk. -/

namespace SymbolIndex

inductive ChangeKind where
  | created
  /-- Content or attributes changed. -/
  | modified
  /-- From the first path to the second. -/
  | renamedBoth
  | renamedAway
  /-- Renamed, with either end named. -/
  | renamed
  | removed
  /-- Accesses and whatever else changes no file. -/
  | other
  deriving DecidableEq, Repr

structure ChangeEvent where
  kind : ChangeKind
  paths : List Path
  deriving DecidableEq, Repr

/-- What the index has to do about a path. -/
inductive Action where
  | upsert
  | delete
  deriving DecidableEq, Repr

def Action.name : Action → String
  | upsert => "Upsert"
  | delete => "Delete"

/-- A path and what to do about it. -/
abbrev PathAction := Path × Action

namespace ChangeEvent

/-- The actions that an event asks for. Changed directories ask for nothing,
since that says nothing about their files. -/
def actions (fs : FileSystem) (e : ChangeEvent) : List PathAction :=
  match e.kind with
  | .created => e.paths.map (·, .upsert)
  | .modified => (e.paths.filter fun p => !fs.isDir p).map (·, .upsert)
  | .renamedBoth =>
      match e.paths with
      | [] => []
      | [source] => [(source, .delete)]
      | source :: target :: _ => [(source, .delete), (target, .upsert)]
  | .renamedAway => e.paths.map (·, .delete)
  | .renamed => e.paths.map fun p => (p, if fs.exists? p then .upsert else .delete)
  | .removed => e.paths.map (·, .delete)
  | .other => []

end ChangeEvent

end SymbolIndex
