-- SUMMARY: The ignore files of each directory, and the verdict of all of them on a path.
import SymbolIndex.Ignore.Rules

/-! # Levels of ignore files

Every directory is a level with three kinds of ignore files. Rules of the first
kind that has a verdict decide, and within a kind those of the nearest
directory. An ignored directory hides all it holds. -/

namespace SymbolIndex.Ignore

/-! ## The file of local exclusions -/

/-- A file on the way to the exclusions that cannot be read as text. -/
structure Unreadable where
  file : Path
  cause : IoError
  deriving DecidableEq, Repr

def Unreadable.message (u : Unreadable) : String := u.file.display ++ ": " ++ u.cause.message

/-- The first line of a file, if there is one. -/
def firstLine? (fs : FileSystem) (file : Path) : Except Unreadable (Option (List Char)) := do
  let content ← (fs.read file).mapError (⟨file, ·⟩)
  match (byteLines content).head? with
  | none => .ok none
  | some line =>
      match Utf8.decode? line with
      | some text => .ok (some text.toList)
      | none => .error ⟨file, .invalidUtf8⟩

/-- What stands behind `gitdir:` and a blank. -/
def adminMark : List Char := "gitdir: ".toList

/-- The directory that work trees share, for a work tree whose `.git` is a file.
That file names the administration of the work tree, where a file `commondir`
leads further. -/
def sharedAdmin? (fs : FileSystem) (mark : Path) : Except Unreadable (Option Path) := do
  match (← firstLine? fs mark).bind (Text.stripFront? adminMark) with
  | none => .ok none
  | some name =>
      let admin := Path.ofString (.ofList name)
      let shared ← firstLine? fs (admin / "commondir")
      .ok (shared.map fun shared =>
        let shared := String.ofList shared
        if shared.toList.head? = some '.' then admin / shared else Path.ofString shared)

/-- Where the exclusions of a work tree at `dir` are written. -/
def exclusionFile? (fs : FileSystem) (dir : Path) : Except Unreadable (Option Path) := do
  let admin := dir / ".git"
  let shared ← if fs.isFile admin then sharedAdmin? fs admin else .ok (some admin)
  .ok (shared.map (· / "info" / "exclude"))

/-! ## One directory -/

/-- The rules that stand in one directory, for paths below it. -/
structure Level where
  dir : RealPath
  /-- The spelling of the directory that is taken off a path. -/
  base : Bytes
  /-- From `.ignore`. -/
  plain : IgnoreFile := {}
  /-- From `.gitignore`. -/
  tracked : IgnoreFile := {}
  /-- From the file of local exclusions. -/
  excluded : IgnoreFile := {}
  deriving Repr

/-- The ignore file at a path, empty if it cannot be read. -/
def fileAt (fs : FileSystem) (file : Path) : IgnoreFile :=
  match fs.read file with
  | .ok content => IgnoreFile.ofContent content
  | .error _ => {}

/-- A path without a leading `./`. -/
def withoutDot (path : Bytes) : Bytes :=
  (Text.stripFront? [Path.dot, slash] path).getD path

/-- The exclusions of a work tree, empty if they cannot be read. -/
def exclusionsAt (fs : FileSystem) (dir : Path) : IgnoreFile :=
  match exclusionFile? fs dir with
  | .ok (some file) => fileAt fs file
  | _ => {}

/-- The level of a directory, for paths that are spelled from `spelling`. -/
def Level.read (fs : FileSystem) (dir : RealPath) (spelling : Path) : Level :=
  let path := RealPath.toPath dir
  { dir
    base := withoutDot spelling.bytes
    plain := fileAt fs (path / ".ignore")
    tracked := fileAt fs (path / ".gitignore")
    excluded := exclusionsAt fs path }

/-- The path as the rules of the level see it. A path that does not start with
the spelling of the directory is left as it is, and so is a mere name. -/
def Level.behind (level : Level) (path : Bytes) : Bytes :=
  let path := withoutDot path
  if Path.same ⟨level.base⟩ ⟨[Path.dot]⟩ || !path.contains slash then path
  else
    match Text.stripFront? level.base path with
    | some rest => (Text.stripFront? [slash] rest).getD rest
    | none => path

/-- What is wrong with an ignore file, if more than that it stops being text. -/
def IgnoreFile.faults? (f : IgnoreFile) (file : Path) : Option String :=
  if f.problems.isEmpty then none else f.problemText? file

/-- What is wrong with the ignore files of the level. -/
def Level.problems (level : Level) (fs : FileSystem) : List String :=
  let path := RealPath.toPath level.dir
  let ofExclusions :=
    match exclusionFile? fs path with
    | .ok (some file) => level.excluded.faults? file
    | .ok none => none
    | .error unreadable => some unreadable.message
  [level.plain.faults? (path / ".ignore"), level.tracked.faults? (path / ".gitignore"),
    ofExclusions].filterMap id

/-! ## All directories -/

/-- The levels that count for a walk. -/
structure Levels where
  /-- Of the walked directories, each after those below it. -/
  inside : List Level
  /-- Of the directories above them, the nearest first. -/
  above : List Level
  deriving Repr

/-- The verdict of one kind of ignore files on what stands at `key` and is
spelled `path`. -/
def Levels.kindVerdict? (levels : Levels) (kind : Level → IgnoreFile) (key : RealPath)
    (path : Bytes) (isDir : Bool) : Option Verdict :=
  let inside := levels.inside.findSome? fun level =>
    if key.isBelow level.dir then
      verdict? (kind level).rules (level.behind (withoutDot path)) isDir
    else none
  inside.or (levels.above.findSome? fun level =>
    verdict? (kind level).rules (level.behind (RealPath.toPath key).bytes) isDir)

/-- The verdict of all ignore files. -/
def Levels.verdict? (levels : Levels) (key : RealPath) (path : Bytes) (isDir : Bool) :
    Option Verdict :=
  (levels.kindVerdict? Level.plain key path isDir).or
    ((levels.kindVerdict? Level.tracked key path isDir).or
      (levels.kindVerdict? Level.excluded key path isDir))

end SymbolIndex.Ignore
