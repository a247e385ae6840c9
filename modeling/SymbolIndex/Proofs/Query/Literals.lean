-- SUMMARY: The queries for calls, uses, identifiers and casts do not depend on what stands inside literals.
import SymbolIndex.Proofs.Query.Mentions
import SymbolIndex.Proofs.Symbols.Contributions
import SymbolIndex.Proofs.Syntax.Literals

/-!
# Queries and literals

The queries for mentions in code test a node by its own text, by its fields, and
by its place below its parent and the parent of that. For a node outside
literals no step of these leads into a literal, so the hits are those of the
tree with empty literals.
-/

namespace SymbolIndex

open Syntax

/-! ## Selections -/

theorem Syntax.Node.findInCode_emptyLiterals (tree : Node) {p : Occurrence → Bool}
    (hp : ∀ o, o.inLiteral = false → p o.emptyLiterals = p o) :
    tree.emptyLiterals.findInCode p = (tree.findInCode p).map Occurrence.emptyLiterals := by
  rw [findInCode, occurrences_emptyLiterals, List.filter_map, List.filter_filter, findInCode]
  congr 2
  funext o
  rw [Function.comp_apply, Occurrence.inLiteral_emptyLiterals]
  cases ho : o.inLiteral with
  | true => rfl
  | false => simp [hp o ho]

namespace Source

variable (src : Source)

/-! ## Text and lines -/

@[simp] theorem text_emptyLiterals (n : Node) : src.text n.emptyLiterals = src.text n := by
  rw [text, Node.start_emptyLiterals, Node.stop_emptyLiterals, text]

@[simp] theorem trimmed_emptyLiterals (n : Node) : src.trimmed n.emptyLiterals = src.trimmed n := by
  rw [trimmed, text_emptyLiterals, trimmed]

@[simp] theorem row_emptyLiterals (n : Node) : src.row n.emptyLiterals = src.row n := by
  rw [row, Node.start_emptyLiterals, row]

@[simp] theorem line_emptyLiterals (n : Node) : src.line n.emptyLiterals = src.line n := by
  rw [line, row_emptyLiterals, line]

@[simp] theorem lineText_emptyLiterals (n : Node) :
    src.lineText n.emptyLiterals = src.lineText n := by
  rw [lineText, row_emptyLiterals, lineText]

@[simp] theorem callHit_emptyLiterals (n : Node) : src.callHit n.emptyLiterals = src.callHit n := by
  rw [callHit, line_emptyLiterals, text_emptyLiterals, callHit]

theorem firstPerRow_map_emptyLiterals (seen : List Nat) (os : List Occurrence) :
    src.firstPerRow seen (os.map Occurrence.emptyLiterals) =
      (src.firstPerRow seen os).map Occurrence.emptyLiterals := by
  induction os generalizing seen with
  | nil => rfl
  | cons o os ih =>
      rw [List.map_cons, firstPerRow, firstPerRow, Occurrence.node_emptyLiterals,
        row_emptyLiterals]
      split
      · exact ih seen
      · rw [List.map_cons, ih]

theorem lineHits_map_emptyLiterals (os : List Occurrence) :
    src.lineHits (os.map Occurrence.emptyLiterals) = src.lineHits os := by
  rw [lineHits, firstPerRow_map_emptyLiterals, List.map_map, lineHits]
  simp [Function.comp_def]

/-! ## Names and types of nodes -/

theorem fieldText?_emptyLiterals {n : Node} (h : n.isLiteral = false) (f : String) :
    src.fieldText? n.emptyLiterals f = src.fieldText? n f := by
  rw [fieldText?, Node.childByField?_emptyLiterals h, Option.map_map, fieldText?]
  simp [Function.comp_def]

theorem genericName_emptyLiterals {n : Node} (h : n.isLiteral = false) :
    src.genericName n.emptyLiterals = src.genericName n := by
  unfold genericName
  rw [Node.childOfKind?_emptyLiterals h, text_emptyLiterals]
  cases n.childOfKind? "identifier" with
  | none => rfl
  | some id => exact src.trimmed_emptyLiterals id

theorem typeName_emptyLiterals (n : Node) : src.typeName n.emptyLiterals = src.typeName n := by
  unfold typeName
  rw [Node.kind_emptyLiterals, text_emptyLiterals]
  split
  case isFalse => rfl
  case isTrue hkind => exact src.genericName_emptyLiterals (Node.isLiteral_eq_false hkind (by decide))

/-! ## Callees -/

theorem function?_emptyLiterals {n : Node} (h : n.isLiteral = false) :
    function? n.emptyLiterals = (function? n).map Node.emptyLiterals := by
  rw [function?, Node.childByField?_emptyLiterals h, Node.namedChildren_emptyLiterals h,
    List.head?_map, ← Option.map_or, function?]

theorem calledName?_emptyLiterals (f : Node) :
    calledName? f.emptyLiterals = (calledName? f).map Node.emptyLiterals := by
  unfold calledName?
  rw [Node.kind_emptyLiterals]
  split
  case isTrue hkind =>
    have hcode : f.isLiteral = false := by
      rcases Bool.or_eq_true_iff.1 hkind with hkind | hkind
      · exact Node.isLiteral_eq_false (of_decide_eq_true hkind) (by decide)
      · exact Node.isLiteral_eq_false (of_decide_eq_true hkind) (by decide)
    exact Node.childByField?_emptyLiterals hcode "name"
  split
  case isTrue => rfl
  split
  case isFalse => rfl
  case isTrue hkind =>
    have hcode : f.isLiteral = false := Node.isLiteral_eq_false hkind (by decide)
    rw [Node.namedChildren_emptyLiterals hcode, ← List.map_reverse, List.find?_map]
    simp only [Function.comp_def, Node.kind_emptyLiterals]
    cases hbinding : f.namedChildren.reverse.find? (·.kind = "member_binding_expression") with
    | none => rfl
    | some b =>
        have hkind := List.find?_some hbinding
        have hcode : b.isLiteral = false :=
          Node.isLiteral_eq_false (of_decide_eq_true hkind) (by decide)
        exact Node.childByField?_emptyLiterals hcode "name"

theorem callee?_emptyLiterals {n : Node} (h : n.isLiteral = false) :
    src.callee? n.emptyLiterals = src.callee? n := by
  have hname : (src.typeName ∘ Node.emptyLiterals) = src.typeName :=
    funext src.typeName_emptyLiterals
  rw [callee?, calleeNode?_eq, function?_emptyLiterals h, Option.bind_map, callee?, calleeNode?_eq]
  cases function? n with
  | none => rfl
  | some f =>
      rw [Option.bind_some, Option.bind_some, Function.comp_apply, calledName?_emptyLiterals,
        Option.map_map, hname]

/-! ## Places -/

theorem isIdentifier_emptyLiterals (name : String) (o : Occurrence) :
    src.isIdentifier name o.emptyLiterals = src.isIdentifier name o := by
  rw [isIdentifier, Occurrence.node_emptyLiterals, Node.kind_emptyLiterals, text_emptyLiterals,
    isIdentifier]

theorem nameExpression_emptyLiterals (o : Occurrence) :
    nameExpression o.emptyLiterals = (nameExpression o).emptyLiterals := by
  unfold nameExpression
  rw [Occurrence.parent?_emptyLiterals]
  cases o.parent? with
  | none => rfl
  | some p =>
      simp only [Option.map_some, Occurrence.node_emptyLiterals, Node.kind_emptyLiterals]
      split <;> rfl

theorem inLiteral_nameExpression {o : Occurrence} (h : o.inLiteral = false) :
    (nameExpression o).inLiteral = false := by
  unfold nameExpression
  cases hp : o.parent? with
  | none => exact h
  | some p =>
      rw [Occurrence.inLiteral_of_parent? hp, Bool.or_eq_false_iff] at h
      dsimp only
      split
      · exact h.2
      · rw [Occurrence.inLiteral_of_parent? hp, h.1, h.2, Bool.or_false]

theorem isInvocationTarget_emptyLiterals {o : Occurrence} (h : o.inLiteral = false) :
    isInvocationTarget o.emptyLiterals = isInvocationTarget o := by
  have hfield := Occurrence.isFieldOfParent_emptyLiterals (inLiteral_nameExpression h)
  unfold isInvocationTarget
  rw [nameExpression_emptyLiterals]
  simp only [Occurrence.parent?_emptyLiterals, hfield]
  cases (nameExpression o).parent? with
  | none => rfl
  | some p => simp

/-! ## Hits -/

variable (tree : Node)

theorem calls_emptyLiterals (name : String) :
    src.calls name tree.emptyLiterals = src.calls name tree := by
  rw [calls_eq, calls_eq, Node.findInCode_emptyLiterals, List.map_map]
  · simp [Function.comp_def]
  · intro o _
    rw [Occurrence.node_emptyLiterals, Node.kind_emptyLiterals]
    cases hkind : o.node.kind == "invocation_expression" with
    | false => rfl
    | true =>
        have hcode : o.node.isLiteral = false :=
          Node.isLiteral_eq_false (beq_iff_eq.1 hkind) (by decide)
        rw [src.callee?_emptyLiterals hcode]

theorem uses_emptyLiterals (name : String) :
    src.uses name tree.emptyLiterals = src.uses name tree := by
  rw [uses_eq, uses_eq, Node.findInCode_emptyLiterals, lineHits_map_emptyLiterals]
  intro o ho
  rw [isIdentifier_emptyLiterals, isInvocationTarget_emptyLiterals ho, isNameOfParent,
    Occurrence.isFieldOfParent_emptyLiterals ho, isNameOfParent]

theorem ident_emptyLiterals (name : String) :
    src.ident name tree.emptyLiterals = src.ident name tree := by
  rw [ident_eq, ident_eq, Node.findInCode_emptyLiterals, lineHits_map_emptyLiterals]
  intro o _
  exact src.isIdentifier_emptyLiterals name o

theorem casts_emptyLiterals (type : String) :
    src.casts type tree.emptyLiterals = src.casts type tree := by
  rw [casts_eq, casts_eq, Node.findInCode_emptyLiterals, lineHits_map_emptyLiterals]
  intro o _
  rw [Occurrence.node_emptyLiterals, Node.kind_emptyLiterals]
  cases hkind : o.node.kind == "cast_expression" with
  | false => rfl
  | true =>
      have hcode : o.node.isLiteral = false :=
        Node.isLiteral_eq_false (beq_iff_eq.1 hkind) (by decide)
      rw [src.fieldText?_emptyLiterals hcode]

/-- The tree with empty literals has the nodes outside literals and no others,
and calls, uses, identifiers and casts have the same hits in it. -/
theorem query_emptyLiterals (name type : String) :
    tree.emptyLiterals.occurrences =
      (tree.occurrences.filter fun o => !o.inLiteral).map Occurrence.emptyLiterals ∧
    src.query tree.emptyLiterals (.calls name) = src.query tree (.calls name) ∧
    src.query tree.emptyLiterals (.uses name) = src.query tree (.uses name) ∧
    src.query tree.emptyLiterals (.ident name) = src.query tree (.ident name) ∧
    src.query tree.emptyLiterals (.casts type) = src.query tree (.casts type) :=
  ⟨tree.occurrences_emptyLiterals, src.calls_emptyLiterals tree name,
    src.uses_emptyLiterals tree name, src.ident_emptyLiterals tree name,
    src.casts_emptyLiterals tree type⟩

end Source

end SymbolIndex
