-- SUMMARY: Rows and lines of a file agree, and hits show the lines of the rows they name.
import SymbolIndex.Proofs.Query.Mentions
import SymbolIndex.Proofs.Syntax.Traversal
import SymbolIndex.Proofs.Text.Lines

/-!
# Shown lines

A hit is numbered by the row of a node, which is counted on bytes, and shows
lines of the decoded file. It shows the text of that very row, whatever bytes
the file has.
-/

namespace SymbolIndex

open Syntax

/-- The queries that show the line on which a node starts. -/
def QueryMode.showsLines : QueryMode → Bool
  | .uses _ | .ident _ | .casts _ => true
  | _ => false

namespace Source

variable (src : Source)

/-! ## Lines of nodes -/

/-- The nodes that a query for lines looks for. -/
def isShown : QueryMode → Occurrence → Bool
  | .uses name, o => src.isIdentifier name o && !isNameOfParent o && !isInvocationTarget o
  | .ident name, o => src.isIdentifier name o
  | .casts type, o =>
      o.node.kind == "cast_expression" && (src.fieldText? o.node "type").any (sameType · type)
  | _, _ => false

/-- A query for lines selects nodes and reports their lines. -/
theorem query_eq_lineHits (tree : Node) {mode : QueryMode} (h : mode.showsLines = true) :
    src.query tree mode = src.lineHits (tree.findInCode (src.isShown mode)) := by
  cases mode with
  | uses name => exact src.uses_eq tree name
  | ident name => exact src.ident_eq tree name
  | casts type => exact src.casts_eq tree type
  | _ => exact absurd h Bool.false_ne_true

theorem lineText_ofBytes (bs : Bytes) (n : Node) :
    (ofBytes bs).lineText n = Text.trim (bs.rowText (bs.row n.start)) := by
  rw [← Bytes.lines_getD]
  change ((bs.lines[bs.row n.start]?).map Text.trim).getD "" = _
  cases bs.lines[bs.row n.start]? with
  | none => rfl
  | some line => rfl

/-! ## Lines of declarations -/

/-- The lines from row `first` to row `last`. -/
theorem drop_take_lines (bs : Bytes) {first last : Nat} (hlast : last < bs.lines.length) :
    (bs.lines.take (last + 1)).drop first =
      (List.range' first (last + 1 - first)).map bs.rowText := by
  refine List.ext_getElem? fun i => ?_
  rw [List.getElem?_drop, List.getElem?_map]
  by_cases hi : i < last + 1 - first
  · have hrow : first + i < bs.lines.length := by omega
    have hline := bs.lines_getD (first + i)
    rw [List.getElem?_eq_getElem hrow, Option.getD_some] at hline
    rw [List.getElem?_take_of_lt (by omega), List.getElem?_eq_getElem hrow, hline,
      List.getElem?_range' hi, Option.map_some, Nat.one_mul]
  · rw [List.getElem?_eq_none (by rw [List.length_take]; omega),
      List.getElem?_eq_none (by rw [List.length_range']; omega), Option.map_none]

theorem mem_query_find {tree : Node} {name : String} {hit : Hit} :
    hit ∈ src.query tree (.find name) ↔
      ∃ o ∈ tree.findKinds (typeKinds ++ memberKinds),
        name ∈ src.declaredNames o.node ∧ hit = src.blockHit name o.node := by
  rw [query, find, List.mem_map]
  constructor
  · rintro ⟨o, ho, rfl⟩
    obtain ⟨hmem, hname⟩ := List.mem_filter.1 ho
    exact ⟨o, hmem, List.contains_iff_mem.1 hname, rfl⟩
  · rintro ⟨o, hmem, hname, rfl⟩
    exact ⟨o, List.mem_filter.2 ⟨hmem, List.contains_iff_mem.2 hname⟩, rfl⟩

end Source

/-- The rows of a node, the first one up to the last one, are lines of the file. -/
def Bytes.SpansLines (bs : Bytes) (n : Node) : Prop :=
  bs.row n.start ≤ bs.row n.stop ∧ bs.row n.stop < bs.lines.length

/-- The rows of a declaration, each with its text, below the numbers of the
first one and the last one. -/
def Bytes.rowsHit (bs : Bytes) (name : String) (n : Node) : Hit :=
  let first := bs.row n.start
  let last := bs.row n.stop
  let header := "[" ++ kindLabel n.kind ++ "] " ++ name ++ " (lines " ++ toString (first + 1) ++
    "-" ++ toString (last + 1) ++ ")"
  ⟨first + 1, "\n".intercalate
    (header :: (List.range' first (last - first + 1)).map bs.rowText)⟩

namespace Source

theorem blockHit_ofBytes {bs : Bytes} {n : Node} (name : String) (h : bs.SpansLines n) :
    (ofBytes bs).blockHit name n = bs.rowsHit name n := by
  have hlines : (bs.lines.take (bs.row n.stop + 1)).drop (bs.row n.start) = _ :=
    drop_take_lines bs h.2
  rw [Nat.succ_sub h.1] at hlines
  rw [Bytes.rowsHit, ← hlines]
  rfl

/-! ## Rows and lines -/

/-- The rows of a file and its lines agree, and hits show the lines of the rows
that they are numbered by. -/
theorem hits_show_rows (bs : Bytes) (tree : Node) :
    (∀ offset ≤ bs.length,
      bs.row offset ≤ bs.lines.length ∧
      (bs.row offset < bs.lines.length →
        bs.lines[bs.row offset]? = some (bs.rowText (bs.row offset))) ∧
      (bs.row offset = bs.lines.length ↔
        offset = bs.length ∧ (bs = [] ∨ bs.getLast? = some 10))) ∧
    (∀ row, '\n' ∉ (bs.rowText row).toList) ∧
    (∀ mode : QueryMode, mode.showsLines = true → ∀ hit,
      hit ∈ (ofBytes bs).query tree mode ↔
        ∃ o ∈ tree.findInCode ((ofBytes bs).isShown mode),
          ⟨bs.row o.node.start + 1, Text.trim (bs.rowText (bs.row o.node.start))⟩ = hit) ∧
    (∀ name, ∀ hit ∈ (ofBytes bs).query tree (.find name),
      ∃ o ∈ tree.findKinds (typeKinds ++ memberKinds), name ∈ (ofBytes bs).declaredNames o.node ∧
        hit.line = bs.row o.node.start + 1 ∧
        (bs.SpansLines o.node → hit = bs.rowsHit name o.node)) ∧
    (∀ name, ∀ o ∈ tree.findKinds (typeKinds ++ memberKinds),
      name ∈ (ofBytes bs).declaredNames o.node → bs.SpansLines o.node →
        bs.rowsHit name o.node ∈ (ofBytes bs).query tree (.find name)) := by
  refine ⟨?rows, bs.newline_notMem_rowText, ?shown, ?found, ?finds⟩
  case rows =>
    intro offset h
    obtain ⟨hle, hlast⟩ := bs.row_le_length_lines h
    refine ⟨hle, fun hlt => ?_, hlast⟩
    rw [← bs.lines_getD, List.getElem?_eq_getElem hlt, Option.getD_some]
  case shown =>
    intro mode hmode hit
    rw [query_eq_lineHits _ tree hmode, mem_lineHits]
    simp only [lineText_ofBytes]
    rfl
  case found =>
    intro name hit h
    obtain ⟨o, hkind, hname, rfl⟩ := (mem_query_find _).1 h
    exact ⟨o, hkind, hname, rfl, blockHit_ofBytes name⟩
  case finds =>
    intro name o hkind hname hspans
    exact (mem_query_find _).2 ⟨o, hkind, hname, (blockHit_ofBytes name hspans).symm⟩

end Source

/-- The tree of `class A {`, `}` on two lines with broken bytes at their ends. -/
def Syntax.Node.brokenClass : Node :=
  .mk "class_declaration" true none 0 14
    [.mk "class" false none 0 5 [], .mk "identifier" true (some "name") 6 7 [],
      .mk "declaration_list" true (some "body") 8 14
        [.mk "\x7b" false none 8 9 [], .mk "\x7d" false none 13 14 []]]

/-- A sequence that the terminator of its line cuts off and a byte that no
character has stand for one character each, and rows stay what they are. -/
theorem Source.hits_show_rows_brokenClass :
    let bs := Utf8.encode "class A \x7b" ++ [0xE2, 0x82, 13, 10] ++ Utf8.encode "\x7d" ++ [0xFF]
    bs.lines[bs.row 15]? = some "\x7d\uFFFD" ∧
    (⟨1, "class A \x7b\uFFFD"⟩ : Hit) ∈ (ofBytes bs).query .brokenClass (.ident "A") ∧
    (⟨1, "[class] A (lines 1-2)\nclass A \x7b\uFFFD\n\x7d\uFFFD"⟩ : Hit) ∈
      (ofBytes bs).query .brokenClass (.find "A") := by
  intro bs
  obtain ⟨hrows, -, hshown, -, hfound⟩ := Source.hits_show_rows bs .brokenClass
  refine ⟨?_, ?_, ?_⟩
  · have hrow := (hrows 15 (by decide +kernel)).2.1 (by decide +kernel)
    rw [hrow]
    decide +kernel
  · rw [hshown (.ident "A") rfl, Node.findInCode, Node.occurrences_eq_preorder]
    decide +kernel
  · have hroot : Occurrence.root .brokenClass ∈
        Node.brokenClass.findKinds (typeKinds ++ memberKinds) := by
      rw [Node.findKinds, Node.findAll, Node.occurrences_eq_preorder]
      exact List.mem_filter.2 ⟨List.mem_cons_self, by decide⟩
    have hhit := hfound "A" _ hroot (by decide +kernel) (by unfold Bytes.SpansLines; decide +kernel)
    have hrows : bs.rowsHit "A" .brokenClass =
        ⟨1, "[class] A (lines 1-2)\nclass A \x7b\uFFFD\n\x7d\uFFFD"⟩ := by decide +kernel
    rw [← hrows]
    exact hhit

end SymbolIndex
