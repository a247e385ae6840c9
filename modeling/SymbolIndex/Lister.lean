-- SUMMARY: Listers: where the candidate files of a bulk run come from.
import SymbolIndex.Error
import SymbolIndex.Log
import SymbolIndex.Repository.Listing

/-! # Listers

A lister names the candidate files below a root. A tree under version control
is listed by its work tree, any other one by a walk. -/

namespace SymbolIndex

/-- What a lister comes upon. -/
inductive Listed where
  | file (path : Path)
  /-- A name that is not text. -/
  | notText (name : Bytes)
  /-- Something is wrong with the ignore files above the root. -/
  | problem (text : String)
  deriving DecidableEq, Repr

def Listed.path? : Listed → Option Path
  | file path => some path
  | _ => none

/-- Lists the candidates below a root, in order. -/
abbrev Lister := FileSystem → (root : Path) → Result (List Listed)

namespace Lister

/-- The files of a walk. -/
def walk : Lister := fun fs root =>
  .ok (((fs.walkProblem? root).map .problem).toList ++ (fs.walk root).map .file)

/-- The same files whatever the root. -/
def fixed (paths : List Path) : Lister := fun _ _ => .ok (paths.map .file)

/-- The directory whose work tree is asked. An empty root is the working
directory. -/
def listedDir? (fs : FileSystem) (root : Path) : Option RealPath :=
  match fs.resolve root with
  | .ok top => if fs.entryAt? top = some .directory then some top else none
  | .error _ => if root.bytes = [] then some fs.workingDir else none

/-- The longest argument that another program can be given, in bytes. -/
def argumentLimit : Nat := 131071

/-- The files of a work tree, if the root lies in one. The root is handed to
another program, so it has to be an argument. -/
def repository (repository? : Option Repository) : Lister := fun fs root =>
  if 0 ∈ root.bytes then .error (.io .nulInArgument)
  else if argumentLimit < root.bytes.length then .error (.io .argumentTooLong)
  else
    match listedDir? fs root with
    | some top =>
        let repository := repository?.getD ⟨[], []⟩
        .ok ((repository.names fs top).map fun name =>
          match Utf8.decode? name with
          | some _ => .file (root.join ⟨name⟩)
          | none => .notText name)
    | none => .ok []

/-- A work tree's lister where the root has an administration, and a walk
elsewhere. -/
def standard (repository? : Option Repository) : Lister := fun fs root =>
  if fs.exists? (root / ".git") then repository repository? fs root else walk fs root

end Lister

end SymbolIndex
