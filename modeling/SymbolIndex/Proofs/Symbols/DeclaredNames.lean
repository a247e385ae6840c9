-- SUMMARY: Extraction, the symbols of a document and the query for a declaration agree on the names that a tree declares.
import SymbolIndex.Document.Basic
import SymbolIndex.Proofs.Symbols.Contributions
import SymbolIndex.Query.Run

/-!
# Declared names

Extraction reads the names of types and members kind by kind, and the query for
a declaration goes through two tables of kinds. Both come to the same: a name is
found exactly if some declaration of the tree introduces it.
-/

namespace SymbolIndex

open Syntax

namespace Source

variable (src : Source) {tree : Node} {name : String}

/-! ## Whole trees -/

/-- A declaration of the tree introduces the name. -/
def Declares (tree : Node) (name : String) : Prop :=
  ∃ o ∈ tree.occurrences, o.node.kind ∈ typeKinds ++ memberKinds ∧ name ∈ src.declaredNames o.node

theorem mem_classNames_extract :
    name ∈ (src.extract tree).classNames ↔
      (∃ o ∈ tree.occurrences, o.node.kind ∈ typeKinds ∧ name ∈ src.declaredNames o.node) ∧
        name ≠ "" := by
  simp only [SymbolRecord.isList_classNames.mem_extract, symbols_eq, List.mem_ite_nil_right]

theorem mem_methodNames_extract :
    name ∈ (src.extract tree).methodNames ↔
      (∃ o ∈ tree.occurrences, o.node.kind ∈ memberKinds ∧ name ∈ src.declaredNames o.node) ∧
        name ≠ "" := by
  simp only [SymbolRecord.isList_methodNames.mem_extract, symbols_eq, List.mem_ite_nil_right]

/-- The record names what the tree declares. -/
theorem mem_names_extract_iff (hname : name ≠ "") :
    name ∈ (src.extract tree).classNames ∨ name ∈ (src.extract tree).methodNames ↔
      src.Declares tree name := by
  rw [mem_classNames_extract, mem_methodNames_extract]
  constructor
  · rintro (⟨⟨o, ho, hkind, hmem⟩, -⟩ | ⟨⟨o, ho, hkind, hmem⟩, -⟩)
    · exact ⟨o, ho, List.mem_append_left _ hkind, hmem⟩
    · exact ⟨o, ho, List.mem_append_right _ hkind, hmem⟩
  · rintro ⟨o, ho, hkind, hmem⟩
    rcases List.mem_append.1 hkind with hkind | hkind
    · exact .inl ⟨⟨o, ho, hkind, hmem⟩, hname⟩
    · exact .inr ⟨⟨o, ho, hkind, hmem⟩, hname⟩

/-- A name is found if the tree declares it. -/
theorem find_ne_nil_iff_declares : src.find name tree ≠ [] ↔ src.Declares tree name := by
  constructor
  · intro h
    obtain ⟨hit, hhit⟩ := List.exists_mem_of_ne_nil _ h
    obtain ⟨o, ho, -⟩ := List.mem_map.1 hhit
    obtain ⟨hfound, hname⟩ := List.mem_filter.1 ho
    obtain ⟨hmem, hkind⟩ := List.mem_filter.1 hfound
    exact ⟨o, hmem, List.contains_iff_mem.1 hkind, List.contains_iff_mem.1 hname⟩
  · rintro ⟨o, ho, hkind, hname⟩
    have hfound : o ∈ tree.findKinds (typeKinds ++ memberKinds) :=
      List.mem_filter.2 ⟨ho, List.contains_iff_mem.2 hkind⟩
    have hkept : o ∈ (tree.findKinds (typeKinds ++ memberKinds)).filter
        fun o => (src.declaredNames o.node).contains name :=
      List.mem_filter.2 ⟨hfound, List.contains_iff_mem.2 hname⟩
    exact List.ne_nil_of_mem (List.mem_map.2 ⟨o, hkept, rfl⟩)

end Source

/-! ## Documents -/

namespace SymbolRecord

theorem mem_declaredNames {r : SymbolRecord} {name : String} :
    name ∈ r.declaredNames ↔ (name ∈ r.classNames ∨ name ∈ r.methodNames) ∧ name ≠ "" := by
  rw [declaredNames, Text.mem_distinct, List.mem_append]

theorem documentSymbols_cases (r : SymbolRecord) :
    r.declaredNames = [] ∧ r.documentSymbols = [""] ∨
      r.declaredNames ≠ [] ∧ r.documentSymbols = r.declaredNames := by
  unfold documentSymbols
  cases h : r.declaredNames with
  | nil => exact .inl ⟨rfl, rfl⟩
  | cons name names => exact .inr ⟨List.cons_ne_nil name names, rfl⟩

variable (r : SymbolRecord)

theorem documentSymbols_ne_nil : r.documentSymbols ≠ [] := by
  rcases r.documentSymbols_cases with ⟨-, h⟩ | ⟨hne, h⟩
  · rw [h]
    exact List.cons_ne_nil _ _
  · rwa [h]

theorem nodup_documentSymbols : r.documentSymbols.Nodup := by
  rcases r.documentSymbols_cases with ⟨-, h⟩ | ⟨-, h⟩
  · rw [h]
    exact List.pairwise_singleton _ _
  · rw [h]
    exact Text.nodup_distinct _

/-- The empty name stands for no names at all: no name of a record is empty. -/
theorem documentSymbols_eq_iff : r.documentSymbols = [""] ↔ r.declaredNames = [] := by
  rcases r.documentSymbols_cases with ⟨hnil, h⟩ | ⟨hne, h⟩
  · exact iff_of_true h hnil
  · refine iff_of_false (fun heq => ?_) hne
    have hmem : "" ∈ r.declaredNames := by
      rw [← h, heq]
      exact List.mem_singleton_self _
    exact (mem_declaredNames.1 hmem).2 rfl

theorem mem_documentSymbols {name : String} (hname : name ≠ "") :
    name ∈ r.documentSymbols ↔ name ∈ r.classNames ∨ name ∈ r.methodNames := by
  have hdeclared : name ∈ r.declaredNames ↔ name ∈ r.classNames ∨ name ∈ r.methodNames := by
    rw [mem_declaredNames, and_iff_left hname]
  rw [← hdeclared]
  rcases r.documentSymbols_cases with ⟨hnil, h⟩ | ⟨-, h⟩
  · simp [h, hnil, hname]
  · rw [h]

end SymbolRecord

/-- No extracted name is empty, so a record without names has empty lists. -/
theorem Source.declaredNames_extract_eq_nil_iff (src : Source) (tree : Node) :
    (src.extract tree).declaredNames = [] ↔
      (src.extract tree).classNames = [] ∧ (src.extract tree).methodNames = [] := by
  simp only [List.eq_nil_iff_forall_not_mem, SymbolRecord.mem_declaredNames]
  constructor
  · intro h
    refine ⟨fun name hname => h name ⟨.inl hname, ?_⟩, fun name hname => h name ⟨.inr hname, ?_⟩⟩
    · exact (mem_classNames_extract src |>.1 hname).2
    · exact (mem_methodNames_extract src |>.1 hname).2
  · rintro ⟨hclass, hmethod⟩ name ⟨hname | hname, -⟩
    · exact hclass name hname
    · exact hmethod name hname

/-- A name that is not empty is found in a tree if the extracted record has it
as the name of a type or a member, and if the symbols of a document made from
the record have it. These symbols are never empty, without repetitions, and the
empty name alone if there are no names. -/
theorem Source.agrees_on_declared_names (src : Source) (tree : Node) (f : SourceFile)
    (config : Config) :
    let r := src.extract tree
    let symbols := (f.project r config).symbols
    (∀ name, name ≠ "" →
      (src.query tree (.find name) ≠ [] ↔ name ∈ r.classNames ∨ name ∈ r.methodNames) ∧
      (src.query tree (.find name) ≠ [] ↔ name ∈ symbols)) ∧
    symbols ≠ [] ∧ symbols.Nodup ∧ (symbols = [""] ↔ r.classNames = [] ∧ r.methodNames = []) := by
  intro r symbols
  refine ⟨fun name hname => ?_, r.documentSymbols_ne_nil, r.nodup_documentSymbols, ?_⟩
  · -- both sides come to: some declaration of the tree introduces the name
    have hfound : src.query tree (.find name) ≠ [] ↔
        name ∈ r.classNames ∨ name ∈ r.methodNames :=
      (find_ne_nil_iff_declares src).trans (mem_names_extract_iff src hname).symm
    exact ⟨hfound, hfound.trans (r.mem_documentSymbols hname).symm⟩
  · exact r.documentSymbols_eq_iff.trans (src.declaredNames_extract_eq_nil_iff tree)

/-- The field in `class A { int x; }`. -/
def Syntax.Node.oneField : Node :=
  .mk "field_declaration" true none 10 16
    [.mk "variable_declaration" true none 10 15
      [.mk "predefined_type" true (some "type") 10 13 [],
        .mk "variable_declarator" true none 14 15 [.mk "identifier" true (some "name") 14 15 []]]]

/-- The tree of `class A { int x; }`. -/
def Syntax.Node.oneClass : Node :=
  .mk "compilation_unit" true none 0 18
    [.mk "class_declaration" true none 0 18
      [.mk "class" false none 0 5 [], .mk "identifier" true (some "name") 6 7 [],
        .mk "declaration_list" true (some "body") 8 18 [oneField]]]

/-- The field is found, and the symbols of the document have it. -/
theorem Source.agrees_on_declared_names_oneClass :
    let src := Source.ofBytes (Utf8.encode "class A { int x; }")
    let r := src.extract Node.oneClass
    let f : SourceFile := ⟨.ofString "/r/a.cs", "a.cs", "cs", "a.cs", 0, src.bytes⟩
    "x" ≠ "" ∧ src.query .oneClass (.find "x") ≠ [] ∧ "x" ∈ (f.project r {}).symbols := by
  intro src r f
  have hname : "x" ≠ "" := by decide
  have hfield : ∃ o ∈ Node.oneClass.occurrences, o.node = Node.oneField := by
    simp [Node.occurrences, Occurrence.walk_cons, Occurrence.root, Occurrence.children,
      Node.oneClass, Node.children]
  have hdeclares : src.Declares .oneClass "x" := by
    obtain ⟨o, ho, hnode⟩ := hfield
    refine ⟨o, ho, ?_, ?_⟩
    · rw [hnode]
      decide
    · rw [hnode]
      decide +kernel
  have hfound : src.query .oneClass (.find "x") ≠ [] := (find_ne_nil_iff_declares src).2 hdeclares
  obtain ⟨hagree, -⟩ := src.agrees_on_declared_names .oneClass f {}
  exact ⟨hname, hfound, (hagree "x" hname).2.1 hfound⟩

end SymbolIndex
