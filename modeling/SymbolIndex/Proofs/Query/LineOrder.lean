-- SUMMARY: Queries for lines report every line on which a node that they look for starts, each once and in ascending order.
import SymbolIndex.Proofs.Query.ShownLines
import SymbolIndex.Proofs.Text.Distinct

/-!
# Order of lines

Where the nodes of a tree come in the order of their first bytes, their rows
ascend, and so do those of any selection among them. To keep the first node of
each row then leaves the rows in strictly ascending order and loses none of them,
whichever nodes of a row are selected.
-/

namespace SymbolIndex

open Syntax

/-! ## Order in the tree -/

/-- No node starts before one that comes earlier in document order. -/
def Syntax.Node.StartsAscend (tree : Node) : Prop :=
  (tree.occurrences.map fun o => o.node.start).Pairwise (· ≤ ·)

theorem Syntax.Occurrence.inLiteral_eq_false_iff {o : Occurrence} :
    o.inLiteral = false ↔ ∀ a ∈ o.ancestors, a.kind ∉ literalKinds := by
  simp [inLiteral, ancestorOfKinds?]

/-! ## What is looked for -/

namespace Source

variable (src : Source)

/-- An identifier in code with that very text. -/
def IsMention (name : String) (o : Occurrence) : Prop :=
  o.node.kind = "identifier" ∧ src.text o.node = name ∧ ∀ a ∈ o.ancestors, a.kind ∉ literalKinds

/-- A cast in code to a type of that bare name. -/
def IsCastTo (type : String) (o : Occurrence) : Prop :=
  o.node.kind = "cast_expression" ∧ (∀ a ∈ o.ancestors, a.kind ∉ literalKinds) ∧
    ∃ written, src.fieldText? o.node "type" = some written ∧
      Text.bareName written = Text.bareName type

/-- The nodes whose lines a query reports. -/
def LooksFor : QueryMode → Occurrence → Prop
  | .uses name, o =>
      src.IsMention name o ∧ isNameOfParent o = false ∧ isInvocationTarget o = false
  | .ident name, o => src.IsMention name o
  | .casts type, o => src.IsCastTo type o
  | _, _ => False

theorem looksFor_iff {mode : QueryMode} {o : Occurrence} :
    src.LooksFor mode o ↔ o.inLiteral = false ∧ src.isShown mode o = true := by
  rw [Occurrence.inLiteral_eq_false_iff]
  cases mode with
  | uses name =>
      simp only [LooksFor, IsMention, isShown, isIdentifier, Bool.and_eq_true, decide_eq_true_eq,
        Bool.not_eq_true']
      tauto
  | ident name =>
      simp only [LooksFor, IsMention, isShown, isIdentifier, Bool.and_eq_true, decide_eq_true_eq]
      tauto
  | casts type =>
      simp only [LooksFor, IsCastTo, isShown, sameType, Bool.and_eq_true, beq_iff_eq,
        Option.any_eq_true, decide_eq_true_eq]
      tauto
  | _ => simp [LooksFor, isShown]

/-! ## Lines -/

theorem map_line_lineHits (os : List Occurrence) :
    (src.lineHits os).map Hit.line =
      (Text.firsts (os.map fun o => src.row o.node)).map (· + 1) := by
  rw [lineHits_eq, List.map_map]
  rfl

/-- A selection among the nodes keeps their order, and rows ascend with offsets. -/
theorem pairwise_row_findInCode {tree : Node} (h : tree.StartsAscend) (p : Occurrence → Bool) :
    ((tree.findInCode p).map fun o => src.row o.node).Pairwise (· ≤ ·) := by
  have hstarts := List.pairwise_map.1 h
  exact List.pairwise_map.2
    ((hstarts.sublist List.filter_sublist).imp fun hle => src.bytes.row_mono hle)

/-- Every line on which a node starts that the query looks for is reported once,
no other line is, and the lines ascend. -/
theorem reports_each_line_once {tree : Node} (h : tree.StartsAscend) {mode : QueryMode}
    (hmode : mode.showsLines = true) :
    ((src.query tree mode).map Hit.line).Pairwise (· < ·) ∧
    ∀ line, line ∈ (src.query tree mode).map Hit.line ↔
      ∃ o ∈ tree.occurrences, src.LooksFor mode o ∧ src.line o.node = line := by
  rw [query_eq_lineHits src tree hmode]
  constructor
  · have hrows := Text.pairwise_lt_firsts (src.pairwise_row_findInCode h (src.isShown mode))
    rw [map_line_lineHits]
    exact List.pairwise_map.2 (hrows.imp fun hlt => Nat.succ_lt_succ hlt)
  · intro line
    rw [mem_lines_lineHits]
    simp only [Node.mem_findInCode, looksFor_iff, and_assoc]

end Source

/-- The tree of `(F)x+(F)y;` and `(F<G>)z;` on two lines. -/
def Syntax.Node.threeCasts : Node :=
  .mk "compilation_unit" true none 0 20 [cast 0 (.mk "identifier" true (some "type") 1 2 []) 4,
    .mk "+" false none 4 5 [], cast 5 (.mk "identifier" true (some "type") 6 7 []) 9,
    .mk ";" false none 9 10 [], cast 11 generic 18, .mk ";" false none 18 19 []]
where
  cast (start : Nat) (type : Node) (stop : Nat) : Node :=
    .mk "cast_expression" true none start stop
      [.mk "(" false none start (start + 1) [], type, .mk ")" false none (stop - 2) (stop - 1) [],
        .mk "identifier" true (some "value") (stop - 1) stop []]
  generic : Node :=
    .mk "generic_name" true (some "type") 12 16
      [.mk "identifier" true none 12 13 [],
        .mk "type_argument_list" true none 13 16
          [.mk "<" false none 13 14 [], .mk "identifier" true none 14 15 [],
            .mk ">" false none 15 16 []]]

/-- Two casts stand on the first line and one to `F<G>` on the second. -/
theorem Source.reports_each_line_once_threeCasts :
    let src := Source.ofBytes (Utf8.encode "(F)x+(F)y;\n(F<G>)z;")
    Node.threeCasts.StartsAscend ∧
    ((src.query .threeCasts (.casts "F")).map Hit.line).Pairwise (· < ·) ∧
    1 ∈ (src.query .threeCasts (.casts "F")).map Hit.line ∧
    2 ∈ (src.query .threeCasts (.casts "F")).map Hit.line ∧
    2 ∈ (src.query .threeCasts (.uses "G")).map Hit.line := by
  intro src
  have hstarts : Node.threeCasts.StartsAscend := by
    rw [Node.StartsAscend, Node.occurrences_eq_preorder]
    decide +kernel
  have hshown : (QueryMode.casts "F").showsLines = true := rfl
  have hshown' : (QueryMode.uses "G").showsLines = true := rfl
  obtain ⟨hascend, hcasts⟩ := src.reports_each_line_once hstarts hshown
  obtain ⟨-, huses⟩ := src.reports_each_line_once hstarts hshown'
  simp only [looksFor_iff, Node.occurrences_eq_preorder] at hcasts huses
  refine ⟨hstarts, hascend, (hcasts 1).2 ?_, (hcasts 2).2 ?_, (huses 2).2 ?_⟩
  · decide +kernel
  · decide +kernel
  · decide +kernel

end SymbolIndex
