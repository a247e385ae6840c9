-- SUMMARY: The queries for types and members report what extraction records, declaration by declaration.
import SymbolIndex.Proofs.Query.Mentions
import SymbolIndex.Proofs.Symbols.Contributions

/-!
# Declarations

Extraction takes the names of types and members kind by kind, and the queries
for classes and methods render hits kind by kind. Behind both stands one list:
the names that the declarations of the tree introduce, in document order.
-/

namespace SymbolIndex

open Syntax

/-- A search by kind, looked at node by node. -/
theorem Syntax.Node.flatMap_findKinds (tree : Node) (ks : List String) (f : Node → List α) :
    ((tree.findKinds ks).flatMap fun o => f o.node) =
      tree.nodes.flatMap fun n => if n.kind ∈ ks then f n else [] := by
  rw [findKinds, findAll, flatMap_filter, nodes, List.flatMap_map]
  simp only [List.contains_iff_mem]

namespace Source

variable (src : Source)

/-! ## Names in document order -/

/-- The names that the declarations of some kinds introduce, each with its
declaration, in document order. A field introduces one name for each variable. -/
def declarations (kinds : List String) (tree : Node) : List (Node × String) :=
  tree.nodes.flatMap fun n => if n.kind ∈ kinds then (src.declaredNames n).map (n, ·) else []

/-- What a node declares comes before what the trees below it declare, and these
come in order. -/
theorem declarations_eq (kinds : List String) (tree : Node) :
    src.declarations kinds tree =
      (if tree.kind ∈ kinds then (src.declaredNames tree).map (tree, ·) else []) ++
        tree.children.flatMap (src.declarations kinds) := by
  rw [declarations, Node.nodes_eq, List.flatMap_cons, List.flatMap_assoc]
  rfl

theorem map_snd_declarations (kinds : List String) (tree : Node) :
    (src.declarations kinds tree).map (·.2) =
      tree.nodes.flatMap fun n => if n.kind ∈ kinds then src.declaredNames n else [] := by
  rw [declarations, List.map_flatMap]
  congr 1
  funext n
  split
  · rw [List.map_map]
    exact List.map_id' _
  · rfl

theorem methodNames_extract (tree : Node) :
    (src.extract tree).methodNames =
      Text.distinct ((src.declarations memberKinds tree).map (·.2)) := by
  rw [SymbolRecord.isList_methodNames.extract_nodes, map_snd_declarations]
  simp only [symbols_eq]

theorem classNames_extract (tree : Node) :
    (src.extract tree).classNames =
      Text.distinct ((src.declarations typeKinds tree).map (·.2)) := by
  rw [SymbolRecord.isList_classNames.extract_nodes, map_snd_declarations]
  simp only [symbols_eq]

/-! ## Members -/

/-- What stands in brackets in front of a member. -/
def memberTag (kind : String) : String :=
  match kind with
  | "field_declaration" => "field"
  | "property_declaration" => "prop"
  | "event_declaration" | "event_field_declaration" => "event"
  | "constructor_declaration" => "ctor"
  | _ => "method"

/-- The return type and a blank; nothing for a constructor and where no return
type is written. -/
def returnPart (n : Node) : String :=
  match src.returnType? n with
  | some ret => if ret ≠ "" && n.kind ≠ "constructor_declaration" then ret ++ " " else ""
  | none => ""

/-- The parameters with their names, in parentheses. -/
def parameterPart (n : Node) : String :=
  "(" ++ ", ".intercalate (((parameters n).map (src.parameterText true)).filter (· ≠ "")) ++ ")"

/-- How a member reports one of its names: `[tag] Type name` for fields, events
and properties, and `[tag] Ret name(T1 a, T2 b)` for the rest. -/
def memberText (n : Node) (name : String) : String :=
  "[" ++ memberTag n.kind ++ "] " ++
    if n.kind ∈ typedKinds then (src.memberType? n).getD "" ++ " " ++ name
    else src.returnPart n ++ name ++ src.parameterPart n

theorem signature?_eq (n : Node) :
    src.signature? true n =
      (src.declaredName? n).map fun name => src.returnPart n ++ name ++ src.parameterPart n := by
  unfold signature? returnPart parameterPart
  congr 1
  funext name
  cases src.returnType? n with
  | none => simp [String.append_assoc]
  | some ret =>
      dsimp only
      split <;> simp [String.append_assoc]

theorem typedHits_eq {n : Node} (hkind : n.kind ∈ typedKinds) :
    src.typedHits (memberTag n.kind) n =
      (src.declaredNames n).map fun name => ⟨src.line n, src.memberText n name⟩ := by
  simp only [typedHits, memberText, if_pos hkind, String.append_assoc]

theorem signatureHits_eq {n : Node} (hkind : n.kind ∉ typedKinds) :
    src.signatureHits (memberTag n.kind) n =
      (src.declaredNames n).map fun name => ⟨src.line n, src.memberText n name⟩ := by
  have hvariables : declaresVariables n = false := by
    simp_all [declaresVariables, typedKinds]
  rw [signatureHits, signature?_eq, declaredNames, if_neg (by simp [hvariables])]
  simp only [memberText, if_neg hkind]
  cases src.declaredName? n <;> rfl

/-- A member has one hit for each name that it introduces. -/
theorem memberHits_eq (n : Node) :
    src.memberHits n =
      (src.declaredNames n).map fun name => ⟨src.line n, src.memberText n name⟩ := by
  by_cases hkind : n.kind ∈ typedKinds
  · rw [← src.typedHits_eq hkind, memberHits]
    split <;> simp_all [memberTag, typedKinds]
  · rw [← src.signatureHits_eq hkind, memberHits]
    split <;> simp_all [memberTag, typedKinds]

theorem methods_eq (tree : Node) :
    src.methods tree =
      (src.declarations memberKinds tree).map fun d => ⟨src.line d.1, src.memberText d.1 d.2⟩ := by
  rw [methods, Node.flatMap_findKinds, declarations, List.map_flatMap]
  congr 1
  funext n
  split
  · rw [memberHits_eq, List.map_map]
    rfl
  · rfl

/-! ## Types -/

/-- How a type reports its name: `[kind] Name : Base1, Base2`. -/
def typeText (n : Node) (name : String) : String :=
  let bases := src.baseTypes n
  "[" ++ kindLabel n.kind ++ "] " ++ name ++
    if bases.isEmpty then "" else " : " ++ ", ".intercalate bases

theorem typeHit?_eq {n : Node} (hkind : n.kind ∈ typeKinds) :
    (src.typeHit? n).toList =
      (src.declaredNames n).map fun name => ⟨src.line n, src.typeText n name⟩ := by
  have hvariables : declaresVariables n = false := by
    unfold declaresVariables
    generalize n.kind = kind at hkind
    revert kind
    decide
  rw [declaredNames, if_neg (by simp [hvariables]), typeHit?, typeHeader?]
  cases src.declaredName? n with
  | none => rfl
  | some name =>
      simp only [Option.map_some, Option.toList_some, List.map_cons, List.map_nil, typeText]
      split <;> simp [String.append_assoc]

theorem classes_eq (tree : Node) :
    src.classes tree =
      (src.declarations typeKinds tree).map fun d => ⟨src.line d.1, src.typeText d.1 d.2⟩ := by
  rw [classes, List.filterMap_eq_flatMap_toList]
  rw [Node.flatMap_findKinds tree typeKinds fun n => (src.typeHit? n).toList, declarations,
    List.map_flatMap]
  congr 1
  funext n
  split
  case isTrue hkind =>
    rw [src.typeHit?_eq hkind, List.map_map]
    rfl
  case isFalse => rfl

/-! ## Records and listings -/

/-- The names of members in a record, and the hits of the query for members, are
read off one list of names in document order; so are the names of types and the
hits of the query for types. A hit stands on the line of its declaration and
shows its name. -/
theorem lists_declarations (tree : Node) :
    (∀ kinds n, src.declarations kinds n =
      (if n.kind ∈ kinds then (src.declaredNames n).map (n, ·) else []) ++
        n.children.flatMap (src.declarations kinds)) ∧
    (src.extract tree).methodNames =
      Text.distinct ((src.declarations memberKinds tree).map (·.2)) ∧
    src.query tree .methods =
      (src.declarations memberKinds tree).map (fun d => ⟨src.line d.1, src.memberText d.1 d.2⟩) ∧
    (src.extract tree).classNames =
      Text.distinct ((src.declarations typeKinds tree).map (·.2)) ∧
    src.query tree .classes =
      (src.declarations typeKinds tree).map fun d => ⟨src.line d.1, src.typeText d.1 d.2⟩ :=
  ⟨src.declarations_eq, src.methodNames_extract tree, src.methods_eq tree,
    src.classNames_extract tree, src.classes_eq tree⟩

end Source

end SymbolIndex
