-- SUMMARY: What a record holds after extraction: the contributions of the nodes, each entry once.
import SymbolIndex.Proofs.Syntax.Traversal
import SymbolIndex.Proofs.Text.Distinct
import SymbolIndex.Symbols.Extraction

/-!
# Extracted records

Every list of an extracted record holds what the nodes of the tree contribute to
it, in document order, without repetitions and without empty entries.
-/

namespace SymbolIndex

open Syntax

/-! ## Records -/

/-- The record of a tree is made of its nodes, wherever they stand. -/
theorem Source.extract_eq_nodes (src : Source) (tree : Node) :
    src.extract tree = (SymbolRecord.concat (tree.nodes.map src.symbols)).normalized := by
  rw [extract, Node.nodes, List.map_map]
  rfl

/-! ## Lists of a record -/

namespace SymbolRecord

/-- A list of a record: a concatenation has the entries of its records in order,
and a normalized record the first occurrences. -/
structure IsList (f : SymbolRecord → List String) : Prop where
  empty : f empty = []
  append (r s : SymbolRecord) : f (r.append s) = f r ++ f s
  normalized (r : SymbolRecord) : f r.normalized = Text.distinct (f r)

theorem isList_classNames : IsList classNames := ⟨rfl, fun _ _ => rfl, fun _ => rfl⟩

theorem isList_methodNames : IsList methodNames := ⟨rfl, fun _ _ => rfl, fun _ => rfl⟩

theorem isList_baseTypes : IsList baseTypes := ⟨rfl, fun _ _ => rfl, fun _ => rfl⟩

theorem isList_callSites : IsList callSites := ⟨rfl, fun _ _ => rfl, fun _ => rfl⟩

theorem isList_methodSigs : IsList methodSigs := ⟨rfl, fun _ _ => rfl, fun _ => rfl⟩

theorem isList_typeRefs : IsList typeRefs := ⟨rfl, fun _ _ => rfl, fun _ => rfl⟩

theorem isList_attributes : IsList attributes := ⟨rfl, fun _ _ => rfl, fun _ => rfl⟩

theorem isList_usings : IsList usings := ⟨rfl, fun _ _ => rfl, fun _ => rfl⟩

/-- The lists of a record; besides them it has the namespace alone. -/
def lists : List (SymbolRecord → List String) :=
  [classNames, methodNames, baseTypes, callSites, methodSigs, typeRefs, attributes, usings]

variable {f : SymbolRecord → List String}

theorem isList_of_mem_lists (hf : f ∈ lists) : IsList f := by
  simp only [lists, List.mem_cons, List.not_mem_nil, or_false] at hf
  rcases hf with rfl | rfl | rfl | rfl | rfl | rfl | rfl | rfl
  · exact isList_classNames
  · exact isList_methodNames
  · exact isList_baseTypes
  · exact isList_callSites
  · exact isList_methodSigs
  · exact isList_typeRefs
  · exact isList_attributes
  · exact isList_usings

theorem IsList.concat (hf : IsList f) (rs : List SymbolRecord) : f (concat rs) = rs.flatMap f := by
  induction rs with
  | nil => exact hf.empty
  | cons r rs ih => rw [concat_cons, hf.append, ih, List.flatMap_cons]

/-- Every list of an extracted record is made of the lists of the nodes. -/
theorem IsList.extract_nodes (hf : IsList f) (src : Source) (tree : Node) :
    f (src.extract tree) = Text.distinct (tree.nodes.flatMap fun n => f (src.symbols n)) := by
  rw [Source.extract_eq_nodes, hf.normalized, hf.concat, List.flatMap_map]

theorem IsList.extract (hf : IsList f) (src : Source) (tree : Node) :
    f (src.extract tree) =
      Text.distinct (tree.occurrences.flatMap fun o => f (src.symbols o.node)) := by
  rw [hf.extract_nodes, Node.nodes, List.flatMap_map]

theorem IsList.mem_extract (hf : IsList f) {src : Source} {tree : Node} {name : String} :
    name ∈ f (src.extract tree) ↔
      (∃ o ∈ tree.occurrences, name ∈ f (src.symbols o.node)) ∧ name ≠ "" := by
  rw [hf.extract, Text.mem_distinct, List.mem_flatMap]

end SymbolRecord

end SymbolIndex
