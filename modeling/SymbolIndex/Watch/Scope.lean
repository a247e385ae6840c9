-- SUMMARY: The scope of a watched index: its root, its configuration and the root's ignore rules.
import SymbolIndex.Config
import SymbolIndex.Error
import SymbolIndex.Ignore.Walk
import SymbolIndex.Log

/-! # Scope

The scope says which paths a watched index covers. It is fixed when watching is
prepared; later changes to ignore files do not count. -/

namespace SymbolIndex

structure Scope where
  /-- Absolute and without links. -/
  root : Path
  config : Config
  /-- Of the ignore file in the root. -/
  rules : List Ignore.Rule := []
  deriving Repr

namespace Scope

/-- The path belongs to the index. -/
def isEligible (s : Scope) (path : Path) : Bool :=
  s.config.isIndexable path s.root &&
    match path.stripBase? s.root with
    | some relative => Ignore.verdictUpward? s.rules relative != some .ignored
    | none => true

/-- The eligible files of a walk. -/
def filesUnder (s : Scope) (fs : FileSystem) (dir : Path) : List Path :=
  (fs.walk dir).filter s.isEligible

/-- Notes what a walk finds wrong with the ignore files above a directory. -/
def noteProblem (fs : FileSystem) (dir : Path) : Logged Unit :=
  match fs.walkProblem? dir with
  | some problem => LogLevel.warn.write ("Walk error: " ++ problem)
  | none => pure ()

/-! ## Opening -/

/-- The rules of an ignore file, none if there is no such file. What is wrong
with it is noted. -/
def readRules (fs : FileSystem) (file : Path) : Logged (List Ignore.Rule) := do
  if !fs.isFile file then return []
  let warn (problem : String) := LogLevel.warn.write ("Failed to parse .gitignore: " ++ problem)
  match fs.read file with
  | .error e => do
      warn (file.display ++ ": line 1: " ++ e.message)
      return []
  | .ok content => do
      let parsed := Ignore.IgnoreFile.ofContent content
      match parsed.problemText? file with
      | some problem => warn problem
      | none => pure ()
      return parsed.rules

/-- The scope of a directory. -/
def ofRoot (fs : FileSystem) (config : Config) (root : Path) : Logged (Result Scope) := do
  if !fs.isDir root then return .error (.config (.rootIsNoDirectory root))
  match fs.canonicalize root with
  | .error e => return .error (.io e)
  | .ok root =>
      let rules ← readRules fs (root / ".gitignore")
      return .ok { root, config, rules }

end Scope

end SymbolIndex
