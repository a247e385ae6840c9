-- SUMMARY: The record of a tree is put together from those of the trees below its root, and a declaration at the end of a file only adds to the record.
import SymbolIndex.Proofs.Symbols.Locality
import SymbolIndex.Proofs.Text.Space

/-!
# Composition of records

The record of a tree has what its root contributes, then what the records of the
children have, each entry once. So a file with one more declaration at its end
has the entries of the file first, and behind them what is new.
-/

namespace SymbolIndex

open Syntax

/-! ## First texts -/

namespace Text

/-- The first text that is not empty; the empty text if there is none. -/
def firstNonEmpty (xs : List String) : String := (xs.find? (· ≠ "")).getD ""

theorem firstNonEmpty_cons (x : String) (xs : List String) :
    firstNonEmpty (x :: xs) = if x = "" then firstNonEmpty xs else x := by
  unfold firstNonEmpty
  split <;> simp_all

theorem firstNonEmpty_append (xs ys : List String) :
    firstNonEmpty (xs ++ ys) =
      if firstNonEmpty xs = "" then firstNonEmpty ys else firstNonEmpty xs := by
  induction xs with
  | nil => rfl
  | cons x xs ih =>
      rw [List.cons_append, firstNonEmpty_cons, ih, firstNonEmpty_cons]
      split <;> simp_all

/-- The lists may be reduced to their first texts one by one. -/
theorem firstNonEmpty_flatMap (f : α → List String) (as : List α) :
    firstNonEmpty (as.flatMap f) = firstNonEmpty (as.map fun a => firstNonEmpty (f a)) := by
  induction as with
  | nil => rfl
  | cons a as ih =>
      rw [List.flatMap_cons, firstNonEmpty_append, ih, List.map_cons, firstNonEmpty_cons]

theorem trim_firstNonEmpty {xs : List String} (h : ∀ x ∈ xs, trim x = x) :
    trim (firstNonEmpty xs) = firstNonEmpty xs := by
  unfold firstNonEmpty
  cases hx : xs.find? (· ≠ "") with
  | none => rfl
  | some x => exact h x (List.mem_of_find?_eq_some hx)

end Text

/-! ## Lists -/

namespace SymbolRecord

variable {f : SymbolRecord → List String}

theorem IsList.distinct_extract (hf : IsList f) (src : Source) (t : Node) :
    Text.distinct (f (src.extract t)) = f (src.extract t) := by
  rw [hf.extract, Text.distinct_distinct]

theorem IsList.extract_children (hf : IsList f) (src : Source) (t : Node) :
    f (src.extract t) =
      Text.distinct (f (src.symbols t) ++ t.children.flatMap fun c => f (src.extract c)) := by
  simp only [hf.extract_nodes src]
  rw [Text.distinct_append_flatMap, Node.nodes_eq, List.flatMap_cons, List.flatMap_assoc]

/-- The root of a file adds nothing to the records of its children. -/
theorem IsList.extract_root (hf : IsList f) (src : Source) {t : Node}
    (hroot : t.kind ∉ Source.contributingKinds) :
    f (src.extract t) = Text.distinct (t.children.flatMap fun c => f (src.extract c)) := by
  have hempty : f (src.symbols t) = [] := by
    rw [src.symbols_eq_empty hroot]
    exact hf.empty
  rw [hf.extract_children, hempty, List.nil_append]

/-! ## The namespace -/

theorem namespaceName_concat (rs : List SymbolRecord) :
    (concat rs).namespaceName = Text.firstNonEmpty (rs.map (·.namespaceName)) := by
  induction rs with
  | nil => rfl
  | cons r rs ih => rw [concat_cons, append, ih, List.map_cons, Text.firstNonEmpty_cons]

end SymbolRecord

namespace Source

variable (src : Source)

theorem trim_namespaceName_symbols (n : Node) :
    Text.trim (src.symbols n).namespaceName = (src.symbols n).namespaceName := by
  have hfield (f : String) (name : String) (h : src.fieldText? n f = some name) :
      Text.trim name = name := by
    obtain ⟨c, -, rfl⟩ := Option.map_eq_some_iff.1 h
    exact Text.trim_trim _
  rw [symbols_eq]
  dsimp only
  split
  case isFalse => rfl
  case isTrue =>
    unfold namespaceSymbols
    cases hname : src.fieldText? n "name" with
    | some name => exact hfield "name" name hname
    | none =>
        dsimp only
        cases n.childOfKinds? ["qualified_name", "identifier"] with
        | none => rfl
        | some c => exact Text.trim_trim _

theorem namespaceName_extract (t : Node) :
    (src.extract t).namespaceName =
      Text.firstNonEmpty (t.nodes.map fun m => (src.symbols m).namespaceName) := by
  rw [extract_eq_nodes, SymbolRecord.normalized, SymbolRecord.namespaceName_concat, List.map_map]
  refine Text.trim_firstNonEmpty fun name hname => ?_
  obtain ⟨m, -, rfl⟩ := List.mem_map.1 hname
  exact src.trim_namespaceName_symbols m

theorem namespaceName_extract_children (t : Node) :
    (src.extract t).namespaceName =
      Text.firstNonEmpty ((src.symbols t).namespaceName ::
        t.children.map fun c => (src.extract c).namespaceName) := by
  simp only [namespaceName_extract]
  rw [Node.nodes_eq, List.map_cons, Text.firstNonEmpty_cons, List.map_flatMap,
    Text.firstNonEmpty_flatMap, ← Text.firstNonEmpty_cons]

theorem namespaceName_extract_root {t : Node} (hroot : t.kind ∉ contributingKinds) :
    (src.extract t).namespaceName =
      Text.firstNonEmpty (t.children.map fun c => (src.extract c).namespaceName) := by
  rw [namespaceName_extract_children, src.symbols_eq_empty hroot, Text.firstNonEmpty_cons,
    if_pos rfl]

end Source

/-! ## Declarations at the end of a file -/

/-- The tree of a file has the trees of a shorter file, where they are, and a
declaration behind them. Its root says nothing itself. -/
structure Syntax.Node.IsExtended (length : Nat) (file added file' : Node) : Prop where
  root : file.kind ∉ Source.contributingKinds
  kind : file'.kind = file.kind
  children : file'.children = file.children ++ [added]
  inside : ∀ c ∈ file.children, ∀ m ∈ c.nodes, m.stop ≤ length

section Extended

variable {bytes more : Bytes} {file added file' : Node}

namespace Syntax.Node.IsExtended

theorem root_after (h : IsExtended bytes.length file added file') :
    file'.kind ∉ Source.contributingKinds := by
  rw [h.kind]
  exact h.root

theorem extract_child (h : IsExtended bytes.length file added file') {c : Node}
    (hc : c ∈ file.children) :
    (Source.ofBytes (bytes ++ more)).extract c = (Source.ofBytes bytes).extract c :=
  Source.extract_agreeOn (Source.agreeOn_append (h.inside c hc) more)

/-- The entries of the file stay as they are, and behind them come those of the
declaration that are new. -/
theorem extract_list (h : IsExtended bytes.length file added file')
    {f : SymbolRecord → List String} (hf : SymbolRecord.IsList f) :
    let before := (Source.ofBytes bytes).extract file
    f ((Source.ofBytes (bytes ++ more)).extract file') =
      f before ++ (f ((Source.ofBytes (bytes ++ more)).extract added)).filter (· ∉ f before) := by
  intro before
  set src' := Source.ofBytes (bytes ++ more)
  have hold : file.children.flatMap (fun c => f (src'.extract c)) =
      file.children.flatMap fun c => f ((Source.ofBytes bytes).extract c) :=
    List.flatMap_congr fun c hc => congrArg f (h.extract_child hc)
  have hbefore : f before = Text.distinct (file.children.flatMap fun c => f (src'.extract c)) := by
    rw [hold]
    exact hf.extract_root _ h.root
  -- what the file has is reduced first, then what stands behind it
  rw [hf.extract_root src' h.root_after, h.children, List.flatMap_append, List.flatMap_singleton,
    ← Text.distinct_distinct_append, ← hbefore, Text.distinct_append, hf.distinct_extract,
    hf.distinct_extract]

theorem extract_namespaceName (h : IsExtended bytes.length file added file') :
    ((Source.ofBytes (bytes ++ more)).extract file').namespaceName =
      Text.firstNonEmpty [((Source.ofBytes bytes).extract file).namespaceName,
        ((Source.ofBytes (bytes ++ more)).extract added).namespaceName] := by
  set src' := Source.ofBytes (bytes ++ more)
  have hold : file.children.map (fun c => (src'.extract c).namespaceName) =
      file.children.map fun c => ((Source.ofBytes bytes).extract c).namespaceName :=
    List.map_congr_left fun c hc => congrArg _ (h.extract_child hc)
  rw [src'.namespaceName_extract_root h.root_after, h.children, List.map_append, hold,
    Text.firstNonEmpty_append, ← Source.namespaceName_extract_root _ h.root,
    Text.firstNonEmpty_cons]
  rfl

end Syntax.Node.IsExtended

end Extended

/-- The lists of the record of a tree are those of its root followed by those of
the trees below the root in order, each entry once, and its namespace is the
first one among these. A declaration at the end of a file comes behind what the
file has in its lists, and takes nothing away and changes no place. -/
theorem Source.extract_by_children (src : Source) (t : Node) :
    (∀ f ∈ SymbolRecord.lists,
      f (src.extract t) =
        Text.distinct (f (src.symbols t) ++ t.children.flatMap fun c => f (src.extract c))) ∧
    (src.extract t).namespaceName =
      Text.firstNonEmpty ((src.symbols t).namespaceName ::
        t.children.map fun c => (src.extract c).namespaceName) ∧
    ∀ (bytes more : Bytes) (added t' : Node), Node.IsExtended bytes.length t added t' →
      let before := (ofBytes bytes).extract t
      let after := (ofBytes (bytes ++ more)).extract t'
      let new := (ofBytes (bytes ++ more)).extract added
      (∀ f ∈ SymbolRecord.lists, f after = f before ++ (f new).filter (· ∉ f before)) ∧
      after.namespaceName = Text.firstNonEmpty [before.namespaceName, new.namespaceName] := by
  refine ⟨?_, src.namespaceName_extract_children t, fun bytes more added t' h => ⟨?_, ?_⟩⟩
  · intro f hf
    exact (SymbolRecord.isList_of_mem_lists hf).extract_children src t
  · intro f hf
    exact h.extract_list (SymbolRecord.isList_of_mem_lists hf)
  · exact h.extract_namespaceName

/-- The declaration in `class A { }`. -/
def Syntax.Node.plainClass : Node :=
  .mk "class_declaration" true none 0 11
    [.mk "class" false none 0 5 [], .mk "identifier" true (some "name") 6 7 [],
      .mk "declaration_list" true (some "body") 8 11
        [.mk "\x7b" false none 8 9 [], .mk "\x7d" false none 10 11 []]]

/-- The second declaration in `class A { } class A : B { }`. -/
def Syntax.Node.derivedClass : Node :=
  .mk "class_declaration" true none 12 27
    [.mk "class" false none 12 17 [], .mk "identifier" true (some "name") 18 19 [],
      .mk "base_list" true none 20 23
        [.mk ":" false none 20 21 [], .mk "identifier" true none 22 23 []],
      .mk "declaration_list" true (some "body") 24 27
        [.mk "\x7b" false none 24 25 [], .mk "\x7d" false none 26 27 []]]

/-- The declaration of a name that the file has adds its base type alone. -/
theorem Source.extract_by_children_twoClasses :
    let bytes := Utf8.encode "class A { }"
    let src := Source.ofBytes (bytes ++ Utf8.encode " class A : B { }")
    let file := Node.mk "compilation_unit" true none 0 11 [.plainClass]
    let file' := Node.mk "compilation_unit" true none 0 27 [.plainClass, .derivedClass]
    Node.IsExtended bytes.length file .derivedClass file' ∧
    (src.extract file').classNames = ["A"] ∧ (src.extract file').baseTypes = ["B"] := by
  intro bytes src file file'
  have hextended : Node.IsExtended bytes.length file .derivedClass file' := by
    refine ⟨by decide, rfl, rfl, ?_⟩
    simp only [Node.nodes, Node.occurrences_eq_preorder]
    decide +kernel
  obtain ⟨hlists, -⟩ := ((ofBytes bytes).extract_by_children file).2.2 bytes
    (Utf8.encode " class A : B { }") .derivedClass file' hextended
  refine ⟨hextended, ?_, ?_⟩
  · rw [hlists SymbolRecord.classNames (by simp [SymbolRecord.lists])]
    simp only [Source.extract, Node.occurrences_eq_preorder]
    decide +kernel
  · rw [hlists SymbolRecord.baseTypes (by simp [SymbolRecord.lists])]
    simp only [Source.extract, Node.occurrences_eq_preorder]
    decide +kernel

end SymbolIndex
