-- SUMMARY: Base lists and the queries for a type go by what stands in front of the first argument list, not by the type without its lists.
import SymbolIndex.Proofs.Query.Mentions
import SymbolIndex.Proofs.Syntax.Traversal
import SymbolIndex.Proofs.Text.Arguments
import SymbolIndex.Symbols.Extraction

/-!
# Types by name

A base list adds one bare name for each of its entries, and the queries for the
type of a member, a parameter or a cast select by bare names. The bare name is
the type without its argument lists only if nothing is written behind them:
`G<int>.I` has the bare name `G`, and so has `G<int>[]`.
-/

namespace SymbolIndex

open Syntax

namespace Source

variable (src : Source)

/-! ## Base lists -/

/-- The entries in the base list of a type declaration. -/
def baseEntries (n : Node) : List Node :=
  match n.childOfKind? "base_list" with
  | none => []
  | some list => list.namedChildren

/-- The name that one entry adds; none if the entry names no type. -/
def baseNames (entry : Node) : List String :=
  ((baseTypeNode? entry).map src.typeName).toList.filter (· ≠ "")

theorem baseTypes_eq (n : Node) : src.baseTypes n = (baseEntries n).flatMap src.baseNames := by
  unfold baseTypes baseEntries
  cases n.childOfKind? "base_list" with
  | none => rfl
  | some list =>
      dsimp only
      rw [List.filterMap_eq_flatMap_toList, List.map_flatMap, List.filter_flatMap]
      congr 1
      funext entry
      rw [baseNames, Option.toList_map]

/-- An entry that is a plain or a qualified name adds its bare name. -/
theorem baseNames_of_name {entry : Node}
    (h : entry.kind = "identifier" ∨ entry.kind = "qualified_name") :
    src.baseNames entry = [Text.bareName (src.text entry)].filter (· ≠ "") := by
  have hnode : baseTypeNode? entry = some entry := by
    rcases h with h | h <;> simp [baseTypeNode?, h]
  have hname : src.typeName entry = Text.bareName (src.text entry) := by
    rcases h with h | h <;> simp [typeName, h]
  rw [baseNames, hnode, Option.map_some, hname, Option.toList_some]

/-! ## Selections -/

/-- The fields and properties whose declared type satisfies `p`. -/
def membersTyped (p : String → Bool) (tree : Node) : List Occurrence :=
  (tree.findKinds ["field_declaration", "property_declaration"]).filter fun o =>
    (src.memberType? o.node).any p

/-- The hits for the names that a member declares, with the type around it. -/
def enclosedHits (o : Occurrence) : List Hit :=
  (src.memberHits o.node).map fun hit => { hit with text := hit.text ++ src.enclosingSuffix o }

theorem fieldType_eq (type : String) (tree : Node) :
    src.fieldType type tree =
      (src.membersTyped (sameType · type) tree).flatMap src.enclosedHits := by
  rw [fieldType, membersTyped, flatMap_filter]
  congr 1
  funext o
  rw [fieldTypeHits]
  cases src.memberType? o.node <;> rfl

/-- The parameters whose declared type satisfies `p`, each behind the node that
has it. -/
def parametersTyped (p : String → Bool) (tree : Node) : List (Node × Node) :=
  (tree.findKinds parameterizedKinds).flatMap fun o =>
    ((parameters o.node).filter fun q => (src.parameterType? q).any p).map (o.node, ·)

/-- The hit for a parameter. -/
def parameterHit (owner p : Node) : Hit :=
  let joined := " ".intercalate (src.parameterModifiers p)
  let modifiers := if joined = "" then "" else joined ++ " "
  ⟨src.line p, "[" ++ kindLabel owner.kind ++ "] " ++ src.ownerName owner ++ "(" ++ modifiers ++
    (src.parameterType? p).getD "" ++ " " ++ (src.parameterName? p).getD "" ++ ")"⟩

theorem paramTypeHit?_eq (type : String) (owner p : Node) :
    src.paramTypeHit? type owner p =
      if (src.parameterType? p).any (sameType · type) then some (src.parameterHit owner p)
      else none := by
  unfold paramTypeHit? parameterHit
  cases src.parameterType? p with
  | none => rfl
  | some declared => rfl

theorem paramType_eq (type : String) (tree : Node) :
    src.paramType type tree =
      (src.parametersTyped (sameType · type) tree).map fun q => src.parameterHit q.1 q.2 := by
  unfold paramType parametersTyped
  rw [List.map_flatMap]
  congr 1
  funext o
  rw [List.map_map, ← List.filterMap_eq_map, List.filterMap_filter]
  congr 1
  funext p
  exact src.paramTypeHit?_eq type o.node p

/-- The casts in code whose type satisfies `p`. -/
def castsTyped (p : String → Bool) (tree : Node) : List Occurrence :=
  tree.findInCode fun o => o.node.kind == "cast_expression" && (src.fieldText? o.node "type").any p

theorem casts_eq_castsTyped (type : String) (tree : Node) :
    src.casts type tree = src.lineHits (src.castsTyped (sameType · type) tree) := by
  rw [casts_eq, castsTyped]

/-! ## Types as written -/

/-- A base list adds the bare name of each entry that is a plain or a qualified
name, and the queries for a type report what has a declared type of the same
bare name as theirs. A bare name is the text without its argument lists exactly
if only white space stands behind them. So types that go on in the same way
behind their bare names are told apart as they are without argument lists, and
of two types that go on differently one judgement or the other says that they
differ. -/
theorem selects_by_bareName (tree : Node) (type : String) :
    (∀ n, src.baseTypes n = (baseEntries n).flatMap src.baseNames) ∧
    (∀ entry : Node, entry.kind = "identifier" ∨ entry.kind = "qualified_name" →
      src.baseNames entry = [Text.bareName (src.text entry)].filter (· ≠ "") ∧
      (Text.isBalanced (src.text entry) = true →
        (Text.bareName (src.text entry) = Text.erased (src.text entry) ↔
          ∀ c ∈ Text.behindLists (src.text entry), Text.isSpace c))) ∧
    src.query tree (.fieldType type) =
      (src.membersTyped (sameType · type) tree).flatMap src.enclosedHits ∧
    src.query tree (.paramType type) =
      (src.parametersTyped (sameType · type) tree).map (fun q => src.parameterHit q.1 q.2) ∧
    src.query tree (.casts type) = src.lineHits (src.castsTyped (sameType · type) tree) ∧
    ∀ declared, Text.isBalanced declared = true → Text.isBalanced type = true →
      (Text.cutOff declared = Text.cutOff type →
        (sameType declared type = true ↔ Text.erased declared = Text.erased type)) ∧
      (Text.cutOff declared ≠ Text.cutOff type →
        ¬(sameType declared type = true ∧ Text.erased declared = Text.erased type)) := by
  refine ⟨src.baseTypes_eq, ?_, src.fieldType_eq type tree, src.paramType_eq type tree,
    src.casts_eq_castsTyped type tree, ?_⟩
  · intro entry hkind
    exact ⟨src.baseNames_of_name hkind, Text.bareName_eq_erased_iff⟩
  · intro declared hdeclared htype
    have hsame : sameType declared type = true ↔ Text.bareName declared = Text.bareName type :=
      decide_eq_true_iff
    rw [hsame]
    refine ⟨Text.bareName_eq_iff_of_cutOff_eq hdeclared htype, ?_⟩
    rintro hcut ⟨hname, herased⟩
    exact Text.erased_ne_of_cutOff_ne hdeclared htype hcut hname herased

end Source

/-- The tree of `class A : G<int>.I { G<int>.I x; }`. -/
def Syntax.Node.nestedBase : Node :=
  .mk "compilation_unit" true none 0 34
    [.mk "class_declaration" true none 0 34
      [.mk "class" false none 0 5 [], .mk "identifier" true (some "name") 6 7 [],
        .mk "base_list" true none 8 18 [.mk ":" false none 8 9 [], inner none 10],
        .mk "declaration_list" true (some "body") 19 34
          [.mk "\x7b" false none 19 20 [], field, .mk "\x7d" false none 33 34 []]]]
where
  /-- `G<int>.I` from the offset `start` on. -/
  inner (holder : Option String) (start : Nat) : Node :=
    .mk "qualified_name" true holder start (start + 8)
      [.mk "generic_name" true (some "qualifier") start (start + 6)
        [.mk "identifier" true none start (start + 1) [],
          .mk "type_argument_list" true none (start + 1) (start + 6)
            [.mk "<" false none (start + 1) (start + 2) [],
              .mk "predefined_type" true none (start + 2) (start + 5) [],
              .mk ">" false none (start + 5) (start + 6) []]],
        .mk "." false none (start + 6) (start + 7) [],
        .mk "identifier" true (some "name") (start + 7) (start + 8) []]
  field : Node :=
    .mk "field_declaration" true none 21 32
      [.mk "variable_declaration" true none 21 31
        [inner (some "type") 21,
          .mk "variable_declarator" true none 30 31
            [.mk "identifier" true (some "name") 30 31 []]],
        .mk ";" false none 31 32 []]

namespace Source

/-- The entry adds `G` and not the erased `G.I`. A declared type `G<int>.I` is
the same as `G<string>.I` in both senses, and the same as `G` in one only. -/
theorem selects_by_bareName_nestedBase :
    let src := Source.ofBytes (Utf8.encode "class A : G<int>.I { G<int>.I x; }")
    let entry := Node.nestedBase.inner none 10
    entry.kind = "qualified_name" ∧ Text.isBalanced (src.text entry) = true ∧
    src.baseNames entry = ["G"] ∧ Text.bareName (src.text entry) ≠ Text.erased (src.text entry) ∧
    Text.isBalanced "G<int>.I" = true ∧ Text.isBalanced "G<string>.I" = true ∧
    sameType "G<int>.I" "G<string>.I" = true ∧ Text.isBalanced "G" = true ∧
    Text.erased "G<int>.I" ≠ Text.erased "G" := by
  intro src entry
  have hkind : entry.kind = "qualified_name" := rfl
  have hentry : Text.isBalanced (src.text entry) = true := by decide +kernel
  have hinner : Text.isBalanced "G<int>.I" = true := by decide
  have hother : Text.isBalanced "G<string>.I" = true := by decide
  have houter : Text.isBalanced "G" = true := by decide
  obtain ⟨-, hbase, -, -, -, hlike⟩ := src.selects_by_bareName .nestedBase "G<string>.I"
  obtain ⟨-, -, -, -, -, hunlike⟩ := src.selects_by_bareName .nestedBase "G"
  obtain ⟨hnames, hbare⟩ := hbase entry (.inr hkind)
  have hlike := (hlike "G<int>.I" hinner hother).1 (by decide +kernel)
  have hunlike := (hunlike "G<int>.I" hinner houter).2 (by decide +kernel)
  refine ⟨hkind, hentry, ?_, fun h => ?_, hinner, hother, hlike.2 (by decide +kernel), houter, ?_⟩
  · rw [hnames]
    decide +kernel
  · have hdot : Text.isSpace '.' = true := (hbare hentry).1 h '.' (by decide +kernel)
    exact absurd hdot (by decide)
  · exact fun herased => hunlike ⟨by decide +kernel, herased⟩

/-- All types in the file are balanced. The nested type `G<int>.I` is recorded as
`G`, and the query for `G` reports the field of that type, which the query for
`G.I` does not. -/
theorem misses_nested_type :
    let src := Source.ofBytes (Utf8.encode "class A : G<int>.I { G<int>.I x; }")
    let entry := Node.nestedBase.inner none 10
    (src.text entry = "G<int>.I" ∧ Text.isBalanced "G<int>.I" = true ∧
      Text.erased "G<int>.I" = "G.I") ∧
    (src.extract .nestedBase).baseTypes = ["G"] ∧
    src.memberType? Node.nestedBase.field = some "G<int>.I" ∧
    src.query .nestedBase (.fieldType "G") = [⟨1, "[field] G<int>.I x  [in A]"⟩] ∧
    src.query .nestedBase (.fieldType "G.I") = [] := by
  intro src entry
  refine ⟨by decide +kernel, ?_, by decide +kernel, ?_, ?_⟩
  · simp only [Source.extract, Node.occurrences_eq_preorder]
    decide +kernel
  · simp only [Source.query, Source.fieldType, Node.findKinds, Node.findAll,
      Node.occurrences_eq_preorder]
    decide +kernel
  · simp only [Source.query, Source.fieldType, Node.findKinds, Node.findAll,
      Node.occurrences_eq_preorder]
    decide +kernel

end Source

end SymbolIndex
