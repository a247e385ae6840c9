-- SUMMARY: Queries for mentions as one selection among the nodes outside literals, and the lines they report.
import SymbolIndex.Query.Run
import SymbolIndex.Text.Distinct

/-!
# Mentions in code

The queries for calls, uses, identifiers and casts all select among the nodes
that stand outside literals. Those that report lines report every line on which
a selected node starts.
-/

namespace SymbolIndex

open Syntax

/-! ## Selections -/

theorem flatMap_filter (p : α → Bool) (f : α → List β) (xs : List α) :
    (xs.filter p).flatMap f = xs.flatMap fun x => if p x then f x else [] := by
  induction xs with
  | nil => rfl
  | cons x xs ih =>
      rw [List.filter_cons, List.flatMap_cons, ← ih]
      split
      · rw [List.flatMap_cons]
      · rw [List.nil_append]

/-- The nodes outside literals that satisfy `p`, in document order. -/
def Syntax.Node.findInCode (tree : Node) (p : Occurrence → Bool) : List Occurrence :=
  tree.occurrences.filter fun o => !o.inLiteral && p o

theorem Syntax.Node.mem_findInCode {tree : Node} {p : Occurrence → Bool} {o : Occurrence} :
    o ∈ tree.findInCode p ↔ o ∈ tree.occurrences ∧ o.inLiteral = false ∧ p o = true := by
  rw [findInCode, List.mem_filter, Bool.and_eq_true, Bool.not_eq_true']

/-- A search among all nodes whose hits are then taken outside literals only. -/
theorem Syntax.Node.filter_findAll (tree : Node) (p q : Occurrence → Bool) :
    (tree.findAll p).filter (fun o => !o.inLiteral && q o) =
      tree.findInCode fun o => p o && q o := by
  rw [findAll, findInCode, List.filter_filter]
  congr 1
  funext o
  ac_rfl

namespace Source

variable (src : Source) (tree : Node)

/-- The hit for a call. -/
def callHit (n : Node) : Hit :=
  ⟨src.line n, Text.truncate (onOneLine (src.text n)) callTextLimit⟩

theorem calls_eq (name : String) :
    src.calls name tree =
      (tree.findInCode fun o =>
        o.node.kind == "invocation_expression" && src.callee? o.node = some name).map
        fun o => src.callHit o.node := by
  simp only [calls, Node.findKinds, Node.filter_findAll, List.contains_cons, List.contains_nil,
    Bool.or_false, callHit]

theorem ident_eq (name : String) :
    src.ident name tree = src.lineHits (tree.findInCode (src.isIdentifier name)) := by
  simp only [ident, Node.findAll, Node.findInCode, List.filter_filter]

theorem uses_eq (name : String) :
    src.uses name tree =
      src.lineHits (tree.findInCode fun o =>
        src.isIdentifier name o && !isNameOfParent o && !isInvocationTarget o) := by
  simp only [uses, Bool.and_assoc, Node.filter_findAll]

theorem casts_eq (type : String) :
    src.casts type tree =
      src.lineHits (tree.findInCode fun o =>
        o.node.kind == "cast_expression" && (src.fieldText? o.node "type").any (sameType · type)) := by
  simp only [casts, Node.findKinds, Node.filter_findAll, List.contains_cons, List.contains_nil,
    Bool.or_false]

/-! ## Lines -/

/-- The rows of the nodes that are kept are the first occurrences of the rows of
all of them. -/
theorem map_row_firstPerRow (seen : List Nat) (os : List Occurrence) :
    (src.firstPerRow seen os).map (fun o => src.row o.node) =
      Text.firstsBeyond seen (os.map fun o => src.row o.node) := by
  induction os generalizing seen with
  | nil => rfl
  | cons o os ih =>
      rw [firstPerRow, List.map_cons, Text.firstsBeyond]
      split
      · exact ih seen
      · rw [List.map_cons, ih]

/-- The hits are those of the rows, in the order in which the rows first come. -/
theorem lineHits_eq (os : List Occurrence) :
    src.lineHits os =
      (Text.firsts (os.map fun o => src.row o.node)).map fun row =>
        ⟨row + 1, ((src.lines[row]?).map Text.trim).getD ""⟩ := by
  rw [Text.firsts, ← map_row_firstPerRow, List.map_map]
  rfl

/-- Every line on which a node starts is reported, and no other line. The hit for
a line is the same one whichever of its nodes is kept. -/
theorem mem_lineHits {os : List Occurrence} {hit : Hit} :
    hit ∈ src.lineHits os ↔ ∃ o ∈ os, ⟨src.line o.node, src.lineText o.node⟩ = hit := by
  simp only [lineHits_eq, List.mem_map, Text.mem_firsts]
  constructor
  · rintro ⟨row, ⟨o, ho, rfl⟩, rfl⟩
    exact ⟨o, ho, rfl⟩
  · rintro ⟨o, ho, rfl⟩
    exact ⟨_, ⟨o, ho, rfl⟩, rfl⟩

theorem mem_lines_lineHits {os : List Occurrence} {line : Nat} :
    line ∈ (src.lineHits os).map Hit.line ↔ ∃ o ∈ os, src.line o.node = line := by
  rw [List.mem_map]
  simp only [mem_lineHits]
  constructor
  · rintro ⟨_, ⟨o, ho, rfl⟩, hline⟩
    exact ⟨o, ho, hline⟩
  · rintro ⟨o, ho, hline⟩
    exact ⟨_, ⟨o, ho, rfl⟩, hline⟩

end Source

end SymbolIndex
