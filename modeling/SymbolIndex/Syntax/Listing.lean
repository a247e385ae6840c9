-- SUMMARY: The written form of a syntax tree: one line per node, in document order.
import SymbolIndex.Syntax.Node
import SymbolIndex.Text.Lines

/-! # Tree listings

A listing has one line per node, in document order:

    depth kind field start stop

The root has depth 0, the kind of a bare token is written with an apostrophe in
front, and `-` stands for no field. `Node.ofListing?` reads a listing and
`Node.listing` writes it. -/

namespace SymbolIndex.Syntax

/-! ## Lines -/

/-- One line of a listing. -/
structure Entry where
  depth : Nat
  kind : String
  named : Bool
  field : Option String
  start : Nat
  stop : Nat
  deriving Repr

namespace Entry

def ofLine? (line : String) : Option Entry :=
  match Text.split ' ' line with
  | [depth, kind, field, start, stop] => do
      let depth ← depth.toNat?
      let start ← start.toNat?
      let stop ← stop.toNat?
      let field := if field == "-" then none else some field
      match kind.toList with
      | '\'' :: token => some ⟨depth, .ofList token, false, field, start, stop⟩
      | _ => some ⟨depth, kind, true, field, start, stop⟩
  | _ => none

def line (e : Entry) : String :=
  let kind := if e.named then e.kind else "'" ++ e.kind
  " ".intercalate
    [toString e.depth, kind, e.field.getD "-", toString e.start, toString e.stop]

end Entry

/-! ## Trees -/

/-- The trees at depth `depth` that a listing starts with, and the lines after
them. Each line is read once, so the number of lines is fuel enough. -/
def forest : (fuel : Nat) → (depth : Nat) → List Entry → List Node × List Entry
  | 0, _, entries => ([], entries)
  | _ + 1, _, [] => ([], [])
  | fuel + 1, depth, e :: entries =>
      if e.depth = depth then
        let (below, rest) := forest fuel (depth + 1) entries
        let (beside, rest) := forest fuel depth rest
        (.mk e.kind e.named e.field e.start e.stop below :: beside, rest)
      else ([], e :: entries)

/-- The tree of a listing. -/
def Node.ofListing? (listing : String) : Option Node := do
  let entries ← (Text.lines listing).mapM Entry.ofLine?
  match forest entries.length 0 entries with
  | ([root], []) => some root
  | _ => none

mutual

/-- The lines of a tree whose root has depth `depth`. -/
def Node.entries (depth : Nat) : Node → List Entry
  | .mk kind named field start stop children =>
      ⟨depth, kind, named, field, start, stop⟩ :: Node.entriesAll (depth + 1) children

def Node.entriesAll (depth : Nat) : List Node → List Entry
  | [] => []
  | n :: ns => Node.entries depth n ++ Node.entriesAll depth ns

end

/-- The listing of a tree. -/
def Node.listing (n : Node) : String := "\n".intercalate ((n.entries 0).map Entry.line)

end SymbolIndex.Syntax
