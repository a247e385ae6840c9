-- SUMMARY: Queries for a type go by the bare name of the pattern, but the query for its uses goes by the pattern as it is written.
import SymbolIndex.Proofs.Query.TypeNames
import SymbolIndex.Proofs.Text.Utf8

/-!
# Patterns of one bare name

The queries for base types, members, parameters and casts compare bare names, so
two patterns with the same bare name have the same hits. The query for uses
compares an identifier with the whole pattern. Identifiers hold no argument list,
and so a pattern that is not its own bare name has no uses.
-/

namespace SymbolIndex

open Syntax

namespace Source

variable (src : Source)

/-! ## By bare name -/

theorem sameType_congr {p q : String} (h : Text.bareName p = Text.bareName q) :
    (sameType · p) = (sameType · q) := by
  funext declared
  rw [sameType, sameType, h]

theorem implements_congr {p q : String} (h : Text.bareName p = Text.bareName q) (tree : Node) :
    src.implements p tree = src.implements q tree := by
  rw [implements, implements, sameType_congr h]

theorem fieldType_congr {p q : String} (h : Text.bareName p = Text.bareName q) (tree : Node) :
    src.fieldType p tree = src.fieldType q tree := by
  rw [fieldType_eq, fieldType_eq, sameType_congr h]

theorem paramType_congr {p q : String} (h : Text.bareName p = Text.bareName q) (tree : Node) :
    src.paramType p tree = src.paramType q tree := by
  rw [paramType_eq, paramType_eq, sameType_congr h]

theorem casts_congr {p q : String} (h : Text.bareName p = Text.bareName q) (tree : Node) :
    src.casts p tree = src.casts q tree := by
  rw [casts_eq_castsTyped, casts_eq_castsTyped, sameType_congr h]

/-! ## As written -/

theorem lineHits_eq_nil_iff {os : List Occurrence} : src.lineHits os = [] ↔ os = [] := by
  constructor
  · intro h
    refine List.eq_nil_iff_forall_not_mem.2 fun o ho => ?_
    have hhit := src.mem_lineHits.2 ⟨o, ho, rfl⟩
    rw [h] at hhit
    cases hhit
  · rintro rfl
    rfl

/-- No identifier of the file has an argument list in it. -/
def HasBareIdentifiers (tree : Node) : Prop :=
  ∀ o ∈ tree.occurrences, o.node.kind = "identifier" →
    Text.bareName (src.text o.node) = src.text o.node

theorem uses_eq_nil_of_not_bare {tree : Node} (hbare : src.HasBareIdentifiers tree) {p : String}
    (hp : Text.bareName p ≠ p) : src.uses p tree = [] := by
  rw [uses_eq, lineHits_eq_nil_iff]
  refine List.eq_nil_iff_forall_not_mem.2 fun o ho => ?_
  obtain ⟨hmem, -, hselected⟩ := Node.mem_findInCode.1 ho
  simp only [isIdentifier, Bool.and_eq_true, decide_eq_true_eq] at hselected
  obtain ⟨⟨⟨hkind, htext⟩, -⟩, -⟩ := hselected
  exact hp (htext ▸ hbare o hmem hkind)

end Source

/-! ## A file of one identifier -/

/-- A tree of one identifier, the whole of a file that holds `name` alone. -/
def Syntax.Node.lone (name : String) : Node :=
  .mk "identifier" true none 0 (Utf8.encode name).length []

theorem Syntax.Node.occurrences_lone (name : String) :
    (Node.lone name).occurrences = [.root (.lone name)] := by
  rw [Node.occurrences_eq_preorder]
  rfl

theorem Source.text_lone (name : String) :
    (Source.ofBytes (Utf8.encode name)).text (.lone name) = name := by
  simp [Source.text, Source.ofBytes, Bytes.range, Node.lone, Node.start, Node.stop]

namespace Source

theorem isNameOfParent_root (n : Node) : isNameOfParent (.root n) = false := rfl

theorem isInvocationTarget_root (n : Node) : isInvocationTarget (.root n) = false := rfl

/-- The one identifier is a use of its text and of no other pattern. -/
theorem uses_lone_eq_nil_iff (name p : String) :
    (Source.ofBytes (Utf8.encode name)).uses p (.lone name) = [] ↔ name ≠ p := by
  have hcode : (Occurrence.root (.lone name)).inLiteral = false := rfl
  have hidentifier : (Source.ofBytes (Utf8.encode name)).isIdentifier p (.root (.lone name)) =
      decide (name = p) := by
    rw [isIdentifier, Occurrence.root, text_lone]
    simp [Node.lone, Node.kind]
  rw [uses_eq, lineHits_eq_nil_iff, Node.findInCode, Node.occurrences_lone,
    List.filter_eq_nil_iff]
  simp [hcode, hidentifier, isNameOfParent_root, isInvocationTarget_root]

/-! ## Two patterns -/

/-- Of two patterns with the same bare name, the queries for base types, members,
parameters and casts have the same hits in every file. The query for uses has the
same hits in every file only if the patterns are the same, and otherwise the same
hits in a file with bare identifiers only if it has none. -/
theorem query_of_bareName_eq {p q : String} (h : Text.bareName p = Text.bareName q) :
    (∀ (src : Source) (tree : Node),
      src.query tree (.implements p) = src.query tree (.implements q) ∧
      src.query tree (.fieldType p) = src.query tree (.fieldType q) ∧
      src.query tree (.paramType p) = src.query tree (.paramType q) ∧
      src.query tree (.casts p) = src.query tree (.casts q)) ∧
    ((∀ (src : Source) (tree : Node),
      src.query tree (.uses p) = src.query tree (.uses q)) ↔ p = q) ∧
    ∀ (src : Source) (tree : Node), src.HasBareIdentifiers tree → p ≠ q →
      (src.query tree (.uses p) = src.query tree (.uses q) ↔
        src.query tree (.uses p) = [] ∧ src.query tree (.uses q) = []) := by
  refine ⟨?_, ?_, ?_⟩
  · intro src tree
    exact ⟨src.implements_congr h tree, src.fieldType_congr h tree, src.paramType_congr h tree,
      src.casts_congr h tree⟩
  · constructor
    · intro huses
      have hlone := huses (Source.ofBytes (Utf8.encode p)) (.lone p)
      have hq := (uses_lone_eq_nil_iff p q).not
      rw [query, query] at hlone
      rw [← hlone, uses_lone_eq_nil_iff] at hq
      exact not_ne_iff.1 (hq.1 (not_ne_iff.2 rfl))
    · rintro rfl src tree
      rfl
  · intro src tree hbare hne
    constructor
    · intro huses
      -- at most one of the patterns is their common bare name
      by_cases hp : Text.bareName p = p
      · have hq : src.query tree (.uses q) = [] :=
          src.uses_eq_nil_of_not_bare hbare fun hq => hne (hp.symm.trans (h.trans hq))
        exact ⟨huses.trans hq, hq⟩
      · have hp : src.query tree (.uses p) = [] := src.uses_eq_nil_of_not_bare hbare hp
        exact ⟨hp, huses.symm.trans hp⟩
    · rintro ⟨hp, hq⟩
      rw [hp, hq]

end Source

/-- The tree of `class A { IFoo<int> x; }`. -/
def Syntax.Node.genericField : Node :=
  .mk "compilation_unit" true none 0 24
    [.mk "class_declaration" true none 0 24
      [.mk "class" false none 0 5 [], .mk "identifier" true (some "name") 6 7 [],
        .mk "declaration_list" true (some "body") 8 24
          [.mk "\x7b" false none 8 9 [], field, .mk "\x7d" false none 23 24 []]]]
where
  field : Node :=
    .mk "field_declaration" true none 10 22
      [.mk "variable_declaration" true none 10 21
        [.mk "generic_name" true (some "type") 10 19
            [.mk "identifier" true none 10 14 [],
              .mk "type_argument_list" true none 14 19
                [.mk "<" false none 14 15 [], .mk "predefined_type" true none 15 18 [],
                  .mk ">" false none 18 19 []]],
          .mk "variable_declarator" true none 20 21
            [.mk "identifier" true (some "name") 20 21 []]],
        .mk ";" false none 21 22 []]

namespace Source

/-- `IFoo` has a use in the file, so its uses are not those of `IFoo<int>`. -/
theorem query_of_bareName_eq_genericField :
    let src := Source.ofBytes (Utf8.encode "class A { IFoo<int> x; }")
    Text.bareName "IFoo" = Text.bareName "IFoo<int>" ∧
    src.query .genericField (.fieldType "IFoo") = src.query .genericField (.fieldType "IFoo<int>") ∧
    src.HasBareIdentifiers .genericField ∧
    src.query .genericField (.uses "IFoo") ≠ [] ∧
    src.query .genericField (.uses "IFoo") ≠ src.query .genericField (.uses "IFoo<int>") := by
  intro src
  have hname : Text.bareName "IFoo" = Text.bareName "IFoo<int>" := by decide +kernel
  have hbare : src.HasBareIdentifiers .genericField := by
    rw [HasBareIdentifiers, Node.occurrences_eq_preorder]
    decide +kernel
  have hused : src.query .genericField (.uses "IFoo") ≠ [] := by
    simp only [query, uses_eq, Node.findInCode, Node.occurrences_eq_preorder]
    decide +kernel
  obtain ⟨hsame, -, huses⟩ := query_of_bareName_eq hname
  obtain ⟨-, hfields, -, -⟩ := hsame src .genericField
  refine ⟨hname, hfields, hbare, hused, fun heq => hused ?_⟩
  exact ((huses src .genericField hbare (by decide)).1 heq).1

/-- The patterns have one bare name and the same fields, and only the bare one
has a use. -/
theorem misses_generic_use :
    let src := Source.ofBytes (Utf8.encode "class A { IFoo<int> x; }")
    Text.bareName "IFoo<int>" = Text.bareName "IFoo" ∧
    src.query .genericField (.fieldType "IFoo<int>") = [⟨1, "[field] IFoo<int> x  [in A]"⟩] ∧
    src.query .genericField (.fieldType "IFoo") = [⟨1, "[field] IFoo<int> x  [in A]"⟩] ∧
    src.query .genericField (.uses "IFoo") = [⟨1, "class A { IFoo<int> x; }"⟩] ∧
    src.query .genericField (.uses "IFoo<int>") = [] := by
  intro src
  refine ⟨by decide +kernel, ?_, ?_, ?_, ?_⟩
  · simp only [query, fieldType, Node.findKinds, Node.findAll, Node.occurrences_eq_preorder]
    decide +kernel
  · simp only [query, fieldType, Node.findKinds, Node.findAll, Node.occurrences_eq_preorder]
    decide +kernel
  · simp only [query, uses_eq, Node.findInCode, Node.occurrences_eq_preorder]
    decide +kernel
  · simp only [query, uses_eq, Node.findInCode, Node.occurrences_eq_preorder]
    decide +kernel

end Source

end SymbolIndex
