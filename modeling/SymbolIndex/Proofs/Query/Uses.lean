-- SUMMARY: Which identifiers the query for uses reports, compared with those that neither declare nor call.
import SymbolIndex.Proofs.Query.Mentions
import SymbolIndex.Proofs.Syntax.Traversal

/-!
# Uses of a name

A use is an identifier in code that is neither the name of a declaration nor the
target of an invocation. The query judges by the parent alone. It drops whatever
stands under the field `name`, also in a qualified name, an attribute or an
access that nobody invokes, and it does not see a call of `a?.Foo<T>()`.
-/

namespace SymbolIndex

open Syntax

/-! ## Declarations and calls -/

/-- Nodes that introduce the name they hold under the field `name`. -/
def Syntax.namingKinds : List String :=
  typeKinds ++ memberKinds ++
    ["enum_member_declaration", "destructor_declaration", "namespace_declaration",
     "file_scoped_namespace_declaration", "variable_declarator", "parameter", "type_parameter"]

namespace Syntax.Occurrence

/-- The occurrence stands under the field `f` of a node whose kind is one of
`ks`. -/
def isPartOf (o : Occurrence) (f : String) (ks : List String) : Bool :=
  o.isFieldOfParent f && o.parent?.any fun p => ks.contains p.node.kind

theorem isPartOf_append (o : Occurrence) (f : String) (ks ks' : List String) :
    o.isPartOf f (ks ++ ks') = (o.isPartOf f ks || o.isPartOf f ks') := by
  unfold isPartOf
  cases o.parent? <;> simp [Bool.and_or_distrib_left]

/-- An occurrence stands under one parent. -/
theorem isPartOf_eq_false_of_disjoint {o : Occurrence} {f f' : String} {ks ks' : List String}
    (h : o.isPartOf f ks = true) (hks : ∀ k ∈ ks, k ∉ ks') : o.isPartOf f' ks' = false := by
  unfold isPartOf at h ⊢
  cases hp : o.parent? with
  | none => simp
  | some p =>
      rw [hp, Option.any_some, Bool.and_eq_true] at h
      have hkind : p.node.kind ∉ ks' := hks _ (List.contains_iff_mem.1 h.2)
      simp [hkind]

/-- The name that a declaration introduces. -/
def isDeclaredName (o : Occurrence) : Bool := o.isPartOf "name" namingKinds

def isFunction (o : Occurrence) : Bool := o.isPartOf "function" ["invocation_expression"]

/-- What an invocation calls: its function, or the binding in a conditional
access that is its function. -/
def isCallee (o : Occurrence) : Bool :=
  o.isFunction || o.node.kind == "member_binding_expression" &&
    o.parent?.any fun p => p.node.kind == "conditional_access_expression" && p.isFunction

/-- The identifier stands for the function of an invocation, or for the name of
the access or the binding that is called. -/
def isCallTarget (o : Occurrence) : Bool :=
  let e := Source.nameExpression o
  e.isFunction ||
    e.isPartOf "name" ["member_access_expression", "member_binding_expression"] &&
      e.parent?.any isCallee

/-- The identifier is used: in code, without being declared or called there. -/
def isUse (o : Occurrence) : Bool := !o.inLiteral && !o.isDeclaredName && !o.isCallTarget

/-! ## What the query drops and adds -/

/-- The name of any node, or under the `generic_name` of an access. -/
def isNamePart (o : Occurrence) : Bool :=
  Source.isNameOfParent o ||
    (Source.nameExpression o).isPartOf "name" ["member_access_expression"]

/-- Under the `generic_name` of a binding that is called. -/
def isBoundCall (o : Occurrence) : Bool :=
  !o.inLiteral && !Source.isNameOfParent o &&
    (Source.nameExpression o).isPartOf "name" ["member_binding_expression"] &&
      (Source.nameExpression o).parent?.any isCallee

end Syntax.Occurrence

namespace Source

theorem isInvocationTarget_eq (o : Occurrence) :
    isInvocationTarget o =
      ((nameExpression o).isFunction ||
        (nameExpression o).isPartOf "name" ["member_access_expression"]) := by
  unfold isInvocationTarget Occurrence.isFunction Occurrence.isPartOf
  cases hp : (nameExpression o).parent? with
  | none => simp [hp]
  | some p =>
      by_cases hcall : p.node.kind = "invocation_expression"
      · simp [hp, hcall]
      · by_cases haccess : p.node.kind = "member_access_expression"
        · simp [hp, haccess]
        · simp [hp, hcall, haccess]

/-- The query reports the uses that are no part of a name, and calls of a bound
generic method besides. -/
theorem isReported_eq (o : Occurrence) :
    (!o.inLiteral && !isNameOfParent o && !isInvocationTarget o) =
      (o.isUse && !o.isNamePart || o.isBoundCall) := by
  have haccess := (nameExpression o).isPartOf_append "name" ["member_access_expression"]
    ["member_binding_expression"]
  have hdeclared : o.isDeclaredName = true → isNameOfParent o = true := by
    intro h
    exact (Bool.and_eq_true_iff.1 h).1
  -- a binding is neither an invocation nor a member access
  have hbinding : (nameExpression o).isPartOf "name" ["member_binding_expression"] = true →
      (nameExpression o).isFunction = false ∧
        (nameExpression o).isPartOf "name" ["member_access_expression"] = false := by
    intro h
    exact ⟨Occurrence.isPartOf_eq_false_of_disjoint h (by decide),
      Occurrence.isPartOf_eq_false_of_disjoint h (by decide)⟩
  rw [isInvocationTarget_eq, Occurrence.isUse, Occurrence.isCallTarget, Occurrence.isNamePart,
    Occurrence.isBoundCall]
  simp only [List.cons_append, List.nil_append] at haccess
  rw [haccess]
  revert hdeclared hbinding
  generalize o.inLiteral = literal, isNameOfParent o = named, o.isDeclaredName = declared,
    (nameExpression o).isFunction = function,
    (nameExpression o).isPartOf "name" ["member_access_expression"] = accessed,
    (nameExpression o).isPartOf "name" ["member_binding_expression"] = bound,
    (nameExpression o).parent?.any Occurrence.isCallee = called
  revert literal named declared function accessed bound called
  decide

/-! ## Lines with a use -/

/-- The query reports a line exactly if an identifier of the name starts on it
that is used there and is no part of a name, or names a bound generic method
that is called. -/
theorem mem_lines_uses_iff (src : Source) (tree : Node) (name : String) (line : Nat) :
    line ∈ (src.query tree (.uses name)).map Hit.line ↔
      ∃ o ∈ tree.occurrences, src.line o.node = line ∧
        o.node.kind = "identifier" ∧ src.text o.node = name ∧
        (o.isUse = true ∧ o.isNamePart = false ∨ o.isBoundCall = true) := by
  rw [query, uses_eq, mem_lines_lineHits]
  constructor
  · rintro ⟨o, ho, hline⟩
    obtain ⟨hmem, hcode, hselected⟩ := Node.mem_findInCode.1 ho
    simp only [isIdentifier, Bool.and_eq_true, decide_eq_true_eq] at hselected
    obtain ⟨⟨⟨hkind, htext⟩, hnamed⟩, htarget⟩ := hselected
    have hreported : (!o.inLiteral && !isNameOfParent o && !isInvocationTarget o) = true := by
      rw [hcode, hnamed, htarget]
      rfl
    rw [isReported_eq] at hreported
    exact ⟨o, hmem, hline, hkind, htext, by simpa using hreported⟩
  · rintro ⟨o, hmem, hline, hkind, htext, hreported⟩
    have hreported : (!o.inLiteral && !isNameOfParent o && !isInvocationTarget o) = true := by
      rw [isReported_eq]
      simpa using hreported
    simp only [Bool.and_eq_true, Bool.not_eq_true'] at hreported
    obtain ⟨⟨hcode, hnamed⟩, htarget⟩ := hreported
    refine ⟨o, Node.mem_findInCode.2 ⟨hmem, hcode, ?_⟩, hline⟩
    simp [isIdentifier, hkind, htext, hnamed, htarget]

end Source

/-- The tree of `class A { N.W w; }`. -/
def Syntax.Node.qualifiedField : Node :=
  .mk "compilation_unit" true none 0 18
    [.mk "class_declaration" true none 0 18
      [.mk "class" false none 0 5 [], .mk "identifier" true (some "name") 6 7 [],
        .mk "declaration_list" true (some "body") 8 18
          [.mk "\x7b" false none 8 9 [], field, .mk "\x7d" false none 17 18 []]]]
where
  field : Node :=
    .mk "field_declaration" true none 10 16
      [.mk "variable_declaration" true none 10 15
        [.mk "qualified_name" true (some "type") 10 13
            [.mk "identifier" true (some "qualifier") 10 11 [], .mk "." false none 11 12 [],
              .mk "identifier" true (some "name") 12 13 []],
          .mk "variable_declarator" true none 14 15
            [.mk "identifier" true (some "name") 14 15 []]],
        .mk ";" false none 15 16 []]

/-- The field is declared with the type `W`, and the query for `W` has no hit. -/
theorem Source.misses_qualified_use :
    let src := Source.ofBytes (Utf8.encode "class A { N.W w; }")
    (Node.qualifiedField.occurrences.map (·.node.start)).Pairwise (· ≤ ·) ∧
    (∃ o ∈ Node.qualifiedField.occurrences, src.line o.node = 1 ∧
      o.node.kind = "identifier" ∧ src.text o.node = "W" ∧ o.isUse = true) ∧
    src.query .qualifiedField (.uses "W") = [] := by
  intro src
  refine ⟨?_, ?_, ?_⟩
  · rw [Node.occurrences_eq_preorder]
    decide +kernel
  · rw [Node.occurrences_eq_preorder]
    decide +kernel
  · simp only [Source.query, Source.uses_eq, Node.findInCode, Node.occurrences_eq_preorder]
    decide +kernel

end SymbolIndex
