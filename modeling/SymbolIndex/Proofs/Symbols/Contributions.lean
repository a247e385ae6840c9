-- SUMMARY: What each node contributes to a record, by its kind, and which nodes an entry stands for.
import SymbolIndex.Proofs.Symbols.Extracted

/-!
# Contributions

What a node adds to a list is decided by its kind. So an entry of a record
stands for a node of the tree, and the accessors on that node say what it is.
-/

namespace SymbolIndex

open Syntax

namespace Source

variable (src : Source)

/-! ## One node -/

/-- The kinds whose members have a declared type in front of their names. -/
def typedKinds : List String :=
  ["property_declaration", "event_declaration", "field_declaration", "event_field_declaration"]

theorem methodSymbols_eq (n : Node) :
    src.methodSymbols n =
      { methodNames := (src.declaredName? n).toList
        methodSigs := (src.methodSymbols n).methodSigs
        typeRefs := (src.methodSymbols n).typeRefs } := by
  unfold methodSymbols
  split <;> simp_all

/-- A local function refers to no types. -/
theorem typeRefs_methodSymbols {n : Node} (hkind : n.kind ≠ "method_declaration") :
    (src.methodSymbols n).typeRefs = [] := by
  unfold methodSymbols
  split <;> simp [hkind]

/-- What a node contributes, list by list. A list of names is decided by the
tables of kinds. -/
theorem symbols_eq (n : Node) :
    src.symbols n =
      { namespaceName :=
          if n.kind ∈ ["namespace_declaration", "file_scoped_namespace_declaration"] then
            (src.namespaceSymbols n).namespaceName
          else ""
        classNames := if n.kind ∈ typeKinds then src.declaredNames n else []
        methodNames := if n.kind ∈ memberKinds then src.declaredNames n else []
        baseTypes := if n.kind ∈ typeKinds then src.baseTypes n else []
        callSites := if n.kind = "invocation_expression" then (src.callee? n).toList else []
        methodSigs :=
          if n.kind ∈ ["method_declaration", "local_function_statement"] then
            (src.methodSymbols n).methodSigs
          else []
        typeRefs :=
          if n.kind = "method_declaration" then (src.methodSymbols n).typeRefs
          else if n.kind ∈ typedKinds then (src.memberType? n).toList
          else []
        attributes := if n.kind = "attribute" then (src.attributeSymbols n).attributes else []
        usings := if n.kind = "using_directive" then (src.usingTarget? n).toList else [] } := by
  unfold symbols
  split
  case h_12 hkind =>
    rw [methodSymbols_eq]
    simp [hkind, typeKinds, memberKinds, declaredNames, declaresVariables]
  case h_13 hkind =>
    rw [methodSymbols_eq, typeRefs_methodSymbols src (by simp [hkind])]
    simp [hkind, typeKinds, memberKinds, typedKinds, declaredNames, declaresVariables]
  all_goals
    simp_all [typeKinds, memberKinds, typedKinds, declaredNames, declaresVariables,
      namespaceSymbols, usingSymbols, attributeSymbols, typeSymbols, constructorSymbols,
      memberSymbols, callSymbols]

/-- The kinds of the nodes that add to a record. -/
def contributingKinds : List String :=
  ["namespace_declaration", "file_scoped_namespace_declaration", "using_directive", "attribute",
    "invocation_expression"] ++ typeKinds ++ memberKinds

/-- A node of any other kind, such as the root of a file, adds nothing. -/
theorem symbols_eq_empty {n : Node} (hkind : n.kind ∉ contributingKinds) : src.symbols n = {} := by
  rw [symbols_eq]
  simp_all [contributingKinds, typeKinds, memberKinds, typedKinds]

theorem typeRefs_symbols_of_typed {n : Node} (hkind : n.kind ∈ typedKinds) :
    (src.symbols n).typeRefs = (src.memberType? n).toList := by
  have hmethod : n.kind ≠ "method_declaration" := by
    rintro hmethod
    rw [hmethod] at hkind
    exact absurd hkind (by decide)
  rw [symbols_eq]
  exact (if_neg hmethod).trans (if_pos hkind)

/-- The node is an invocation of `name`. -/
def Invokes (name : String) (n : Node) : Prop :=
  n.kind = "invocation_expression" ∧ src.callee? n = some name

/-! ## Callees -/

/-- What an invocation calls. -/
def function? (invocation : Node) : Option Node :=
  (invocation.childByField? "function").or invocation.namedChildren.head?

/-- The name at the end of an access, of a binding or of a plain name. -/
def calledName? (function : Node) : Option Node :=
  if function.kind = "member_access_expression" || function.kind = "member_binding_expression" then
    function.childByField? "name"
  else if function.kind = "identifier" || function.kind = "generic_name" then
    some function
  else if function.kind = "conditional_access_expression" then
    (function.namedChildren.reverse.find? (·.kind = "member_binding_expression")).bind
      (·.childByField? "name")
  else none

theorem calleeNode?_eq (n : Node) : calleeNode? n = (function? n).bind calledName? := by
  unfold calleeNode? function?
  cases n.childByField? "function" <;> rfl

/-! ## Whole trees -/

variable {src} {tree : Node} {name : String}

theorem ne_empty_of_callee? {n : Node} (h : src.callee? n = some name) : name ≠ "" := by
  simpa using (Option.filter_eq_some_iff.1 h).2

theorem ne_empty_of_mem_baseTypes {n : Node} (h : name ∈ src.baseTypes n) : name ≠ "" := by
  unfold baseTypes at h
  split at h
  · cases h
  · simpa using (List.mem_filter.1 h).2

/-- The call sites are what the invocations call, those inside literals
included. -/
theorem mem_callSites_extract :
    name ∈ (src.extract tree).callSites ↔ ∃ o ∈ tree.occurrences, src.Invokes name o.node := by
  simp only [SymbolRecord.isList_callSites.mem_extract, symbols_eq, List.mem_ite_nil_right,
    Option.mem_toList]
  constructor
  · rintro ⟨h, -⟩
    exact h
  · rintro ⟨o, ho, hkind, hcallee⟩
    exact ⟨⟨o, ho, hkind, hcallee⟩, ne_empty_of_callee? hcallee⟩

theorem mem_baseTypes_extract :
    name ∈ (src.extract tree).baseTypes ↔
      ∃ o ∈ tree.occurrences, o.node.kind ∈ typeKinds ∧ name ∈ src.baseTypes o.node := by
  simp only [SymbolRecord.isList_baseTypes.mem_extract, symbols_eq, List.mem_ite_nil_right]
  constructor
  · rintro ⟨h, -⟩
    exact h
  · rintro ⟨o, ho, hkind, hname⟩
    exact ⟨⟨o, ho, hkind, hname⟩, ne_empty_of_mem_baseTypes hname⟩

/-- The declared type of every field, event and property is among the type
references. -/
theorem mem_typeRefs_of_memberType? {o : Occurrence} (ho : o ∈ tree.occurrences)
    (hkind : o.node.kind ∈ typedKinds) (htype : src.memberType? o.node = some name)
    (hname : name ≠ "") : name ∈ (src.extract tree).typeRefs := by
  have hmem : name ∈ (src.symbols o.node).typeRefs := by
    rw [typeRefs_symbols_of_typed src hkind, htype]
    exact List.mem_singleton_self name
  exact SymbolRecord.isList_typeRefs.mem_extract.2 ⟨⟨o, ho, hmem⟩, hname⟩

theorem mem_attributes_symbols {n : Node} :
    name ∈ (src.symbols n).attributes ↔
      n.kind = "attribute" ∧ ∃ written, src.fieldText? n "name" = some written ∧
        Text.attributeName (Text.lastSegment written) = name := by
  rw [symbols_eq, attributeSymbols, List.mem_ite_nil_right, Option.mem_toList,
    Option.map_eq_some_iff]

end Source

end SymbolIndex
