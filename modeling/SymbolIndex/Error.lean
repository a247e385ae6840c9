-- SUMMARY: What can go wrong across the operations of the index.
import SymbolIndex.File.System
import SymbolIndex.Json.Fault

/-! # Errors

Extraction and queries never fail: what cannot be parsed has no symbols. All
other operations fail with one of these causes, and `message` has its wording.
Numbers and buffers beyond what the machine holds are no errors: the program ends
where it meets them, in a panic. -/

namespace SymbolIndex

/-- Why a configuration cannot be used. -/
inductive ConfigProblem where
  | malformed (file : Path) (failure : Json.Failure)
  | zeroBatch
  | blankCollection
  | noSourceRoot
  | unresolvedSourceRoot (root : Path) (cause : IoError)
  | rootIsNoDirectory (root : Path)
  | other (text : String)
  deriving DecidableEq, Repr

def ConfigProblem.message : ConfigProblem → String
  | malformed file failure => file.display ++ ": " ++ failure.message
  | zeroBatch => "batch_size must be > 0"
  | blankCollection => "store.collection must not be empty"
  | noSourceRoot =>
      "no source root configured: set \"src_root\" in codesearch.json or pass --src"
  | unresolvedSourceRoot root cause => "source root " ++ root.display ++ ": " ++ cause.message
  | rootIsNoDirectory root => "Source root is not a directory: " ++ root.display
  | other text => text

inductive Error where
  | fileRead (path : Path) (cause : IoError)
  /-- No answer came from the store. -/
  | remoteUnavailable (url message : String)
  /-- The store answered that it could not do it. -/
  | remoteStatus (operation : String) (status : Nat) (body : String)
  /-- The collection lacks a field that a search needs. -/
  | schemaMismatch (detail : String)
  | config (problem : ConfigProblem)
  | watch (problem : String)
  | io (cause : IoError)
  | json (failure : Json.Failure)
  deriving DecidableEq, Repr

namespace Error

def message : Error → String
  | fileRead path cause => "Failed to read " ++ path.display ++ ": " ++ cause.message
  | remoteUnavailable url message =>
      "Document store unavailable at " ++ url ++ ": " ++ message ++ ". Is the server running?"
  | remoteStatus operation status body =>
      "Document store returned " ++ toString status ++ " for " ++ operation ++ ": " ++ body
  | schemaMismatch detail =>
      "Schema mismatch (" ++ detail ++ "). Re-index with: codesearch index --reset"
  | config problem => "Configuration error: " ++ problem.message
  | watch problem => "Watch error: " ++ problem
  | io cause => "IO error: " ++ cause.message
  | json failure => "JSON error: " ++ failure.message

/-- The underlying cause, where there is one. -/
def cause? : Error → Option String
  | fileRead _ cause => some cause.message
  | io cause => some cause.message
  | json failure => some failure.message
  | _ => none

/-- The store could not be reached at all. -/
def isUnavailable : Error → Bool
  | remoteUnavailable _ _ => true
  | _ => false

end Error

abbrev Result (α : Type) := Except Error α

/-! ## Panics -/

/-- Why the program ends in the middle of an operation. -/
inductive Panic where
  | additionOverflow
  /-- A buffer is longer than any can be. -/
  | capacityOverflow
  /-- A buffer is longer than what is left of the memory. -/
  | outOfMemory (bytes : Nat)
  deriving DecidableEq, Repr

namespace Panic

def message : Panic → String
  | additionOverflow => "attempt to add with overflow"
  | capacityOverflow => "capacity overflow"
  | outOfMemory bytes => "memory allocation of " ++ toString bytes ++ " bytes failed"

/-- The code that the program ends with. Without memory it is stopped by a signal. -/
def exitCode : Panic → Nat
  | outOfMemory _ => 134
  | _ => 101

end Panic

/-- How an operation ends that may panic. -/
inductive Exit (α : Type) where
  | ok (value : α)
  | error (e : Error)
  | panic (p : Panic)
  deriving DecidableEq, Repr

end SymbolIndex
