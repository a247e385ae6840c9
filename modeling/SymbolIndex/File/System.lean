-- SUMMARY: A file system as a value: entries by real path, symbolic links, and the errors of access.
import SymbolIndex.File.Path

/-! # File systems

A file system maps real paths, lists of names from the root, to entries. The
parent of every entry is a directory. Paths as written are resolved against the
working directory, symbolic links are followed, and whatever goes wrong is one
of the causes in `IoError`. -/

namespace SymbolIndex

/-! ## Errors -/

/-- Why an access to the file system fails. -/
inductive IoError where
  | notFound
  | inputOutput
  | notADirectory
  | isADirectory
  | nameTooLong
  | tooManyLinks
  | nulInPath
  /-- The name of a directory for another program has a zero byte. -/
  | nulInArgument
  /-- The name of a directory is too long to be handed to another program. -/
  | argumentTooLong
  /-- The system has no thread left. -/
  | temporarilyUnavailable
  | invalidUtf8
  | outsideRoot (path root : Path)
  deriving DecidableEq, Repr

namespace IoError

def message : IoError → String
  | notFound => "No such file or directory (os error 2)"
  | inputOutput => "Input/output error (os error 5)"
  | notADirectory => "Not a directory (os error 20)"
  | isADirectory => "Is a directory (os error 21)"
  | nameTooLong => "File name too long (os error 36)"
  | tooManyLinks => "Too many levels of symbolic links (os error 40)"
  | nulInPath => "file name contained an unexpected NUL byte"
  | nulInArgument => "nul byte found in provided data"
  | argumentTooLong => "Argument list too long (os error 7)"
  | temporarilyUnavailable => "Resource temporarily unavailable (os error 11)"
  | invalidUtf8 => "stream did not contain valid UTF-8"
  | outsideRoot path root =>
      "File path '" ++ path.display ++ "' is not within source root '" ++ root.display ++ "'"

end IoError

/-! ## Entries -/

/-- What stands at a real path. -/
inductive Entry where
  /-- A regular file and its modification time in Unix seconds. -/
  | file (content : Bytes) (mtime : Int)
  /-- A regular file of size 0 that cannot be read. -/
  | unreadable
  | directory
  | symlink (target : Path)
  deriving DecidableEq, Repr

/-- The number of parts that the entry puts in the place of its name. -/
def Entry.targetLength : Entry → Nat
  | symlink target => target.parts.length
  | _ => 0

/-- A real path: the names from the root, without links. -/
abbrev RealPath := List Bytes

namespace RealPath

def toPath (key : RealPath) : Path := ⟨Path.slash :: [Path.slash].intercalate key⟩

/-- `key` lies strictly below `dir`. -/
def isBelow (key dir : RealPath) : Bool := dir.isPrefixOf key && dir.length < key.length

end RealPath

structure FileSystem where
  /-- Everything but the root, which is a directory. -/
  entries : List (RealPath × Entry)
  workingDir : RealPath
  deriving Repr

/-- Size and kind of what a path leads to. -/
structure Metadata where
  isFile : Bool
  isDir : Bool
  size : Nat
  mtime : Int
  deriving DecidableEq, Repr

namespace FileSystem

def entryAt? (fs : FileSystem) (key : RealPath) : Option Entry :=
  if key = [] then some .directory else (fs.entries.find? (·.1 = key)).map Prod.snd

/-! ## Resolution -/

/-- Longest name and longest path that the system takes, in bytes. -/
def nameLimit : Nat := 255

def pathLimit : Nat := 4095

/-- Links followed before the system gives up. -/
def linkLimit : Nat := 40

/-- The number of parts of the longest target of a link. Following a link adds no more
parts than that, which is why resolution ends. -/
def longestTarget (fs : FileSystem) : Nat :=
  (fs.entries.map fun e => e.2.targetLength).max?.getD 0

theorem length_target_le {fs : FileSystem} {key : RealPath} {target : Path}
    (h : fs.entryAt? key = some (.symlink target)) :
    target.parts.length ≤ fs.longestTarget := by
  unfold entryAt? at h
  split at h
  · cases h
  · obtain ⟨e, hfind, hentry⟩ := Option.map_eq_some_iff.1 h
    have hmem := List.mem_map_of_mem (f := fun e => e.2.targetLength)
      (List.mem_of_find?_eq_some hfind)
    rw [hentry] at hmem
    exact List.le_max?_getD_of_mem hmem

/-- Walks the parts of a path from the real path `dir`. Each link costs one of
`links` and puts the parts of its target in front. -/
def resolveFrom (fs : FileSystem) (links : Nat) (dir : RealPath) : List Bytes → Except IoError RealPath
  | [] => .ok dir
  | part :: rest =>
      if fs.entryAt? dir ≠ some .directory then .error .notADirectory
      else if part = [] ∨ part = [Path.dot] then fs.resolveFrom links dir rest
      else if part = [Path.dot, Path.dot] then fs.resolveFrom links dir.dropLast rest
      else if part.length > nameLimit then .error .nameTooLong
      else
        match _hentry : fs.entryAt? (dir ++ [part]) with
        | none => .error .notFound
        | some (.symlink target) =>
            if target.bytes = [] then .error .notFound
            else
              match links with
              | 0 => .error .tooManyLinks
              | links + 1 =>
                  fs.resolveFrom links (if target.isAbsolute then [] else dir)
                    (target.parts ++ rest)
        | some _ => fs.resolveFrom links (dir ++ [part]) rest
termination_by parts => links * fs.longestTarget + parts.length
decreasing_by
  · simp
  · simp
  · have hle := length_target_le _hentry
    simp only [List.length_append, List.length_cons, Nat.succ_mul]
    omega
  · simp

/-- The real path that `p` leads to. -/
def resolve (fs : FileSystem) (p : Path) : Except IoError RealPath :=
  if p.bytes = [] then .error .notFound
  else if 0 ∈ p.bytes then .error .nulInPath
  else if p.bytes.length > pathLimit then .error .nameTooLong
  else fs.resolveFrom linkLimit (if p.isAbsolute then [] else fs.workingDir) p.parts

/-- Walks the parts of a path whose entries need not exist. Links are followed,
at the last part only if `followLast` says so. -/
def placeFrom (fs : FileSystem) (followLast : Bool) (links : Nat) (dir : RealPath) :
    List Bytes → RealPath
  | [] => dir
  | part :: rest =>
      if part = [] ∨ part = [Path.dot] then fs.placeFrom followLast links dir rest
      else if part = [Path.dot, Path.dot] then fs.placeFrom followLast links dir.dropLast rest
      else
        match _hentry : fs.entryAt? (dir ++ [part]) with
        | some (.symlink target) =>
            if rest.isEmpty && !followLast then dir ++ [part]
            else
              match links with
              | 0 => dir ++ [part]
              | links + 1 =>
                  fs.placeFrom followLast links (if target.isAbsolute then [] else dir)
                    (target.parts ++ rest)
        | _ => fs.placeFrom followLast links (dir ++ [part]) rest
termination_by parts => links * fs.longestTarget + parts.length
decreasing_by
  · simp
  · simp
  · have hle := length_target_le _hentry
    simp only [List.length_append, List.length_cons, Nat.succ_mul]
    omega
  · simp

/-- Where an entry for `p` stands or would stand. -/
def place (fs : FileSystem) (followLast : Bool) (p : Path) : RealPath :=
  fs.placeFrom followLast linkLimit (if p.isAbsolute then [] else fs.workingDir) p.parts

/-- The last part of `p` is a symbolic link. -/
def isLink (fs : FileSystem) (p : Path) : Bool :=
  match fs.entryAt? (fs.place false p) with
  | some (.symlink _) => true
  | _ => false

/-- The absolute spelling of `p` without links, `.` and `..`. -/
def canonicalize (fs : FileSystem) (p : Path) : Except IoError Path :=
  (fs.resolve p).map RealPath.toPath

/-! ## Questions -/

def Entry.metadata : Entry → Metadata
  | .file content mtime => ⟨true, false, content.length, mtime⟩
  | .unreadable => ⟨true, false, 0, 0⟩
  | .directory => ⟨false, true, 4096, 0⟩
  | .symlink _ => ⟨false, false, 0, 0⟩

/-- Kind, size and time of what `p` leads to. -/
def metadata (fs : FileSystem) (p : Path) : Except IoError Metadata := do
  let key ← fs.resolve p
  match fs.entryAt? key with
  | some e => .ok (Entry.metadata e)
  | none => .error .notFound

def exists? (fs : FileSystem) (p : Path) : Bool := (fs.metadata p).isOk

def isFile (fs : FileSystem) (p : Path) : Bool :=
  match fs.metadata p with
  | .ok m => m.isFile
  | .error _ => false

def isDir (fs : FileSystem) (p : Path) : Bool :=
  match fs.metadata p with
  | .ok m => m.isDir
  | .error _ => false

/-- The bytes of the file that `p` leads to. -/
def read (fs : FileSystem) (p : Path) : Except IoError Bytes := do
  let key ← fs.resolve p
  match fs.entryAt? key with
  | some (.file content _) => .ok content
  | some .unreadable => .error .inputOutput
  | some .directory => .error .isADirectory
  | _ => .error .notFound

/-- The text of the file that `p` leads to. -/
def readText (fs : FileSystem) (p : Path) : Except IoError String := do
  let bytes ← fs.read p
  match Utf8.decode? bytes with
  | some s => .ok s
  | none => .error .invalidUtf8

/-- The names in a real directory. -/
def namesIn (fs : FileSystem) (dir : RealPath) : List Bytes :=
  fs.entries.filterMap fun (key, _) =>
    match key.getLast? with
    | some name => if key.dropLast = dir then some name else none
    | none => none

/-! ## Changes -/

/-- The file system without what is at or below `key`. -/
def removeTree (fs : FileSystem) (key : RealPath) : FileSystem :=
  { fs with entries := fs.entries.filter fun e => !key.isPrefixOf e.1 }

/-- Nothing is left at or below a real path that was removed. -/
theorem entryAt?_removeTree_of_below (fs : FileSystem) {top key : RealPath} (hk : key ≠ [])
    (h : top.isPrefixOf key = true) : (fs.removeTree top).entryAt? key = none := by
  simp only [removeTree, entryAt?, hk, if_false]
  rw [List.find?_filter]
  simp only [Option.map_eq_none_iff, List.find?_eq_none]
  rintro ⟨key', e⟩ _ hp
  simp at hp
  exact absurd h (by simp [hp.2 ▸ hp.1])

/-- The directories above `key` that are missing, the topmost first. -/
def missingAbove (fs : FileSystem) (key : RealPath) : List RealPath :=
  ((List.range key.length).map key.take).filter fun dir => (fs.entryAt? dir).isNone

def makeParents (fs : FileSystem) (key : RealPath) : FileSystem :=
  { fs with entries := fs.entries ++ (fs.missingAbove key).map (·, Entry.directory) }

/-- Puts an entry at `key`, in the place of what was there. -/
def put (fs : FileSystem) (key : RealPath) (e : Entry) : FileSystem :=
  let fs := fs.makeParents key
  { fs with entries := fs.entries.filter (·.1 ≠ key) ++ [(key, e)] }

/-- What was put at a real path stands there. -/
theorem entryAt?_put_self (fs : FileSystem) {key : RealPath} (e : Entry) (h : key ≠ []) :
    (fs.put key e).entryAt? key = some e := by
  have gone : ((fs.makeParents key).entries.filter (·.1 ≠ key)).find? (·.1 = key) = none := by
    simp [List.find?_eq_none]
  simp only [put, entryAt?, h, if_false, List.find?_append, gone]
  simp

/-- Makes a directory at `key` unless there is one. -/
def makeDir (fs : FileSystem) (key : RealPath) : FileSystem :=
  if fs.entryAt? key = some .directory then fs else fs.put key .directory

/-- Moves what is at or below `source` to `target`. -/
def rename (fs : FileSystem) (source target : RealPath) : FileSystem :=
  let fs := (fs.makeParents target)
  { fs with
    entries := (fs.entries.filter fun e => !target.isPrefixOf e.1).map fun (key, e) =>
      if source.isPrefixOf key then (target ++ key.drop source.length, e) else (key, e) }

end FileSystem

end SymbolIndex
