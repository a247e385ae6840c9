-- SUMMARY: Paths as written: components, joining, prefixes, names and extensions.
import SymbolIndex.Text.Lines
import SymbolIndex.Text.Utf8

/-! # Paths

A path is the byte string a user or the system wrote. Two spellings of one
path, such as `a//b` and `a/./b`, have the same components, and all comparisons
look at components. Nothing here asks a file system. -/

namespace SymbolIndex

structure Path where
  bytes : Bytes
  deriving DecidableEq, Repr, Inhabited

/-- One step of a path. -/
inductive Component where
  | root
  /-- A leading `.` of a relative path. -/
  | current
  /-- `..` -/
  | up
  | normal (name : Bytes)
  deriving DecidableEq, Repr

namespace Path

def slash : UInt8 := 47

def dot : UInt8 := 46

def ofString (s : String) : Path := ⟨Utf8.encode s⟩

/-- The path as text; bytes that are not UTF-8 are replaced. -/
def display (p : Path) : String := Utf8.decode p.bytes

/-- The path in query output, where `\` is shown as `/`. -/
def displaySlashed (p : Path) : String :=
  .ofList (p.display.toList.map fun c => if c = '\\' then '/' else c)

def isAbsolute (p : Path) : Bool := p.bytes.head? == some slash

/-! ## Components -/

/-- What stands between the slashes. -/
def parts (p : Path) : List Bytes := Text.splitAt slash p.bytes

/-- The component of a part that is not the first one. Empty parts and `.` are
no components. -/
def innerComponent? (part : Bytes) : Option Component :=
  if part = [] ∨ part = [dot] then none
  else if part = [dot, dot] then some .up
  else some (.normal part)

def innerComponents (parts : List Bytes) : List Component := parts.filterMap innerComponent?

def components (p : Path) : List Component :=
  match p.parts with
  | [] => []
  | first :: rest =>
      if p.isAbsolute then .root :: innerComponents rest
      else if first = [dot] then .current :: innerComponents rest
      else innerComponents (first :: rest)

/-- Two spellings of one path. -/
def same (p q : Path) : Bool := p.components = q.components

/-- The path `q` is at or above `p`. -/
def startsWith (p q : Path) : Bool := q.components.isPrefixOf p.components

@[simp] theorem same_refl (p : Path) : p.same p = true := by simp [same]

theorem same_comm (p q : Path) : p.same q = q.same p := by simp [same, eq_comm]

theorem same_trans {p q r : Path} (hp : p.same q = true) (hq : q.same r = true) :
    p.same r = true := by
  simp_all [same]

@[simp] theorem startsWith_refl (p : Path) : p.startsWith p = true := by
  simp [startsWith]

/-- The name of the last component. -/
def fileName? (p : Path) : Option Bytes :=
  match p.components.getLast? with
  | some (.normal name) => some name
  | _ => none

/-- What a file name has behind its last dot. A dot in front makes a hidden
file and no extension. -/
def extensionOfName? (name : Bytes) : Option Bytes :=
  if dot ∈ name.drop 1 then some (name.reverse.takeWhile (· ≠ dot)).reverse else none

def extension? (p : Path) : Option Bytes := p.fileName?.bind extensionOfName?

/-! ## Joining and stripping -/

/-- `q` seen from `p`. -/
def join (p q : Path) : Path :=
  if q.isAbsolute || p.bytes.isEmpty then q
  else if p.bytes.getLast? == some slash then ⟨p.bytes ++ q.bytes⟩
  else ⟨p.bytes ++ slash :: q.bytes⟩

instance : HDiv Path String Path := ⟨fun p name => p.join (ofString name)⟩

/-- Drops the parts that no component comes from, up to the first one that
does. -/
def skipBlank (parts : List Bytes) : List Bytes :=
  parts.dropWhile fun part => (innerComponent? part).isNone

/-- The parts behind `n` components. -/
def dropInner : (n : Nat) → List Bytes → List Bytes
  | 0, parts => parts
  | n + 1, parts => dropInner n ((skipBlank parts).drop 1)

/-- The spelling of `p` behind its first `n` components, `0 < n`. -/
def dropComponents (p : Path) (n : Nat) : Path :=
  let rest :=
    match p.parts with
    | [] => []
    | first :: rest =>
        if p.isAbsolute || first = [dot] then dropInner (n - 1) rest
        else dropInner n (first :: rest)
  let body := (skipBlank (skipBlank rest).reverse).reverse
  ⟨[slash].intercalate body⟩

/-- The spelling of `p` without blank parts at its end. -/
def trimmed (p : Path) : Path :=
  match p.parts with
  | [] => p
  | first :: rest =>
      match (skipBlank rest.reverse).reverse with
      | [] => ⟨if p.isAbsolute then [slash] else first⟩
      | rest => ⟨[slash].intercalate (first :: rest)⟩

/-- The part of `p` under the path `base`. -/
def stripBase? (p base : Path) : Option Path :=
  if p.startsWith base then
    if base.components.isEmpty then some p.trimmed
    else some (p.dropComponents base.components.length)
  else none

/-- A relative path without its last component. -/
def dropLast (p : Path) : Path :=
  ⟨[slash].intercalate (skipBlank ((skipBlank p.parts.reverse).drop 1)).reverse⟩

/-- The paths above a relative path of `n` components, the nearest first and
the empty one last. -/
def above : (n : Nat) → Path → List Path
  | 0, _ => []
  | n + 1, p => p.dropLast :: above n p.dropLast

/-! ## Order -/

/-- Root, `.`, `..`, then names bytewise. -/
def Component.rank : Component → Nat
  | .root => 0
  | .current => 1
  | .up => 2
  | .normal _ => 3

def bytesLt : Bytes → Bytes → Bool
  | _, [] => false
  | [], _ :: _ => true
  | a :: as, b :: bs => a < b || (a == b && bytesLt as bs)

def componentLt : Component → Component → Bool
  | .normal a, .normal b => bytesLt a b
  | a, b => Component.rank a < Component.rank b

def componentsLt : List Component → List Component → Bool
  | _, [] => false
  | [], _ :: _ => true
  | a :: as, b :: bs => componentLt a b || (a == b && componentsLt as bs)

/-- Paths are ordered by their components. -/
def le (p q : Path) : Bool := !componentsLt q.components p.components

def sort (ps : List Path) : List Path := ps.mergeSort le

/-- The first spelling of every path. -/
def distinct (ps : List Path) : List Path :=
  ps.foldl (fun seen p => if seen.any p.same then seen else seen ++ [p]) []

end Path

end SymbolIndex
