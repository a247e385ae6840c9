-- SUMMARY: A record names what the queries for calls, base types and member types find in its file.
import SymbolIndex.Proofs.Query.Mentions
import SymbolIndex.Proofs.Symbols.Contributions
import SymbolIndex.Proofs.Syntax.Traversal

/-!
# Recorded names

A search over records picks the files on which a query is then run. It loses no
hit, since the record of a file has an entry for whatever a query finds in it.
The other way round a call site may stand inside a literal, where the query does
not look.
-/

namespace SymbolIndex

open Syntax

namespace Source

variable {src : Source} {tree : Node} {name type : String}

/-! ## What a hit stands for -/

theorem calls_ne_nil_iff :
    src.calls name tree ≠ [] ↔
      ∃ o ∈ tree.occurrences, o.inLiteral = false ∧ src.Invokes name o.node := by
  rw [calls_eq, ne_eq, List.map_eq_nil_iff, List.eq_nil_iff_forall_not_mem]
  simp only [Node.mem_findInCode, Bool.and_eq_true, beq_iff_eq, decide_eq_true_eq, Classical.not_forall,
    Classical.not_not, Invokes]

/-- A type that the query for a base type reports has a base of that name. -/
theorem exists_base_of_implements (h : src.implements type tree ≠ []) :
    ∃ o ∈ tree.occurrences, o.node.kind ∈ typeKinds ∧
      ∃ base ∈ src.baseTypes o.node, Text.bareName base = Text.bareName type := by
  obtain ⟨hit, hhit⟩ := List.exists_mem_of_ne_nil _ h
  obtain ⟨o, ho, -⟩ := List.mem_filterMap.1 hhit
  obtain ⟨hfound, hbase⟩ := List.mem_filter.1 ho
  obtain ⟨hmem, hkind⟩ := List.mem_filter.1 hfound
  obtain ⟨base, hbase, hsame⟩ := List.any_eq_true.1 hbase
  exact ⟨o, hmem, List.contains_iff_mem.1 hkind, base, hbase, of_decide_eq_true hsame⟩

/-- A member that the query for a field type reports is declared with a type of
that name. -/
theorem exists_memberType_of_fieldType (h : src.fieldType type tree ≠ []) :
    ∃ o ∈ tree.occurrences, o.node.kind ∈ ["field_declaration", "property_declaration"] ∧
      ∃ declared, src.memberType? o.node = some declared ∧
        Text.bareName declared = Text.bareName type := by
  obtain ⟨hit, hhit⟩ := List.exists_mem_of_ne_nil _ h
  obtain ⟨o, hfound, hhit⟩ := List.mem_flatMap.1 hhit
  obtain ⟨hmem, hkind⟩ := List.mem_filter.1 hfound
  refine ⟨o, hmem, List.contains_iff_mem.1 hkind, ?_⟩
  unfold fieldTypeHits at hhit
  split at hhit
  case h_1 => cases hhit
  case h_2 declared hdeclared =>
    split at hhit
    case isTrue hsame => exact ⟨declared, hdeclared, of_decide_eq_true hsame⟩
    case isFalse => cases hhit

end Source

/-! ## What the record has -/

/-- If the query for calls of a name has a hit then the name is a recorded call
site, and a recorded call site has a hit unless it comes from invocations inside
literals only. Hits of the queries for a base type and for a field type have an
entry of the same bare name among the recorded base types and type references. -/
theorem Source.records_hits (src : Source) (tree : Node) (name type : String)
    (htype : Text.bareName type ≠ "") :
    let r := src.extract tree
    (src.query tree (.calls name) ≠ [] → name ∈ r.callSites) ∧
    (name ∈ r.callSites → src.query tree (.calls name) ≠ [] ∨
      (∃ o ∈ tree.occurrences, src.Invokes name o.node) ∧
        ∀ o ∈ tree.occurrences, src.Invokes name o.node → o.inLiteral = true) ∧
    (src.query tree (.implements type) ≠ [] →
      ∃ base ∈ r.baseTypes, Text.bareName base = Text.bareName type) ∧
    (src.query tree (.fieldType type) ≠ [] →
      ∃ ref ∈ r.typeRefs, Text.bareName ref = Text.bareName type) := by
  intro r
  refine ⟨fun hcalls => ?_, fun hname => ?_, fun himplements => ?_, fun hfieldType => ?_⟩
  · obtain ⟨o, ho, -, hinvokes⟩ := calls_ne_nil_iff.1 hcalls
    exact mem_callSites_extract.2 ⟨o, ho, hinvokes⟩
  · by_cases hcalls : src.query tree (.calls name) = []
    · refine .inr ⟨mem_callSites_extract.1 hname, fun o ho hinvokes => ?_⟩
      cases hliteral : o.inLiteral with
      | true => rfl
      | false => exact absurd hcalls (calls_ne_nil_iff.2 ⟨o, ho, hliteral, hinvokes⟩)
    · exact .inl hcalls
  · obtain ⟨o, ho, hkind, base, hbase, hsame⟩ := exists_base_of_implements himplements
    exact ⟨base, mem_baseTypes_extract.2 ⟨o, ho, hkind, hbase⟩, hsame⟩
  · obtain ⟨o, ho, hkind, declared, hdeclared, hsame⟩ := exists_memberType_of_fieldType hfieldType
    -- an empty type would not be recorded, but no pattern with a bare name finds one
    have hne : declared ≠ "" := by
      rintro rfl
      exact htype (hsame.symm.trans (by decide))
    have htyped : ["field_declaration", "property_declaration"] ⊆ typedKinds := by decide
    exact ⟨declared, mem_typeRefs_of_memberType? ho (htyped hkind) hdeclared hne, hsame⟩

/-- The tree of `class A : B { B b; void M() { F(); } }`. -/
def Syntax.Node.oneCall : Node :=
  .mk "compilation_unit" true none 0 38
    [.mk "class_declaration" true none 0 38
      [.mk "class" false none 0 5 [], .mk "identifier" true (some "name") 6 7 [],
        .mk "base_list" true none 8 11
          [.mk ":" false none 8 9 [], .mk "identifier" true none 10 11 []],
        .mk "declaration_list" true (some "body") 12 38 [field, method]]]
where
  field : Node :=
    .mk "field_declaration" true none 14 18
      [.mk "variable_declaration" true none 14 17
        [.mk "identifier" true (some "type") 14 15 [],
          .mk "variable_declarator" true none 16 17
            [.mk "identifier" true (some "name") 16 17 []]]]
  method : Node :=
    .mk "method_declaration" true none 19 36
      [.mk "predefined_type" true (some "returns") 19 23 [],
        .mk "identifier" true (some "name") 24 25 [],
        .mk "parameter_list" true (some "parameters") 25 27 [],
        .mk "block" true (some "body") 28 36
          [.mk "expression_statement" true none 30 34
            [.mk "invocation_expression" true none 30 33
              [.mk "identifier" true (some "function") 30 31 [],
                .mk "argument_list" true (some "arguments") 31 33 []]]]]

/-- What the queries find in it is recorded. -/
theorem Source.records_hits_oneCall :
    let src := Source.ofBytes (Utf8.encode "class A : B { B b; void M() { F(); } }")
    let r := src.extract .oneCall
    Text.bareName "B<int>" ≠ "" ∧
    (src.query .oneCall (.calls "F") ≠ [] ∧ "F" ∈ r.callSites) ∧
    (src.query .oneCall (.implements "B<int>") ≠ [] ∧
      ∃ base ∈ r.baseTypes, Text.bareName base = Text.bareName "B<int>") ∧
    (src.query .oneCall (.fieldType "B<int>") ≠ [] ∧
      ∃ ref ∈ r.typeRefs, Text.bareName ref = Text.bareName "B<int>") := by
  intro src r
  have htype : Text.bareName "B<int>" ≠ "" := by decide +kernel
  have hcalls : src.query .oneCall (.calls "F") ≠ [] := by
    simp only [Source.query, Source.calls_eq, Node.findInCode, Node.occurrences_eq_preorder]
    decide +kernel
  have himplements : src.query .oneCall (.implements "B<int>") ≠ [] := by
    simp only [Source.query, Source.implements, Node.findKinds, Node.findAll,
      Node.occurrences_eq_preorder]
    decide +kernel
  have hfieldType : src.query .oneCall (.fieldType "B<int>") ≠ [] := by
    simp only [Source.query, Source.fieldType, Node.findKinds, Node.findAll,
      Node.occurrences_eq_preorder]
    decide +kernel
  obtain ⟨hrecorded, -, hbase, href⟩ := src.records_hits .oneCall "F" "B<int>" htype
  exact ⟨htype, ⟨hcalls, hrecorded hcalls⟩, ⟨himplements, hbase himplements⟩,
    ⟨hfieldType, href hfieldType⟩⟩

end SymbolIndex
