-- SUMMARY: The queries for base types, fields, member types and uses find nothing that the wider queries do not find.
import Mathlib.Data.List.Flatten
import Mathlib.Data.List.Forall2
import SymbolIndex.Proofs.Query.Declarations
import SymbolIndex.Proofs.Query.TypeNames

/-!
# Restrictions

Some queries ask for less than others: for the types with some base among all
types, for fields among all members, for the fields of some type among all
fields, for uses among all identifiers. Their hits are hits of the wider query,
in the same order, and the text of a hit tells which members are fields.
-/

namespace SymbolIndex

open Syntax

/-! ## Hits -/

/-- The hit is the other one, with or without `  [in Type]` behind its text. -/
def Hit.IsWithin (hit plain : Hit) : Prop :=
  hit.line = plain.line ∧
    (hit.text = plain.text ∨ ∃ owner, hit.text = plain.text ++ "  [in " ++ owner ++ "]")

namespace Source

variable (src : Source) (type : String) (tree : Node)

/-! ## Types with a base -/

theorem implements_sublist_classes :
    (src.implements type tree).Sublist (src.classes tree) :=
  List.filter_sublist.filterMap _

/-! ## Fields among members -/

/-- The text of a hit for a field or a property. -/
def isFieldText (text : String) : Bool :=
  "[field] ".toList.isPrefixOf text.toList || "[prop] ".toList.isPrefixOf text.toList

/-- The kinds of fields and properties. -/
def fieldKinds : List String := ["field_declaration", "property_declaration"]

theorem isFieldText_memberText {n : Node} (hkind : n.kind ∈ memberKinds) (name : String) :
    isFieldText (src.memberText n name) = decide (n.kind ∈ fieldKinds) := by
  have htag (rest : String) : ∀ kind ∈ memberKinds,
      isFieldText ("[" ++ memberTag kind ++ "] " ++ rest) = decide (kind ∈ fieldKinds) := by
    intro kind hkind
    simp only [memberKinds, List.mem_cons, List.not_mem_nil, or_false] at hkind
    rcases hkind with rfl | rfl | rfl | rfl | rfl | rfl | rfl
    -- no other tag starts like one of the two that are looked for
    all_goals simp [isFieldText, memberTag, fieldKinds, List.isPrefixOf]
  exact htag _ n.kind hkind

theorem filter_memberHits {n : Node} (hkind : n.kind ∈ memberKinds) :
    (src.memberHits n).filter (fun hit => isFieldText hit.text) =
      if n.kind ∈ fieldKinds then src.memberHits n else [] := by
  rw [memberHits_eq, List.filter_map]
  simp only [Function.comp_def, src.isFieldText_memberText hkind]
  split
  case isTrue hfield => rw [List.filter_eq_self.2 fun _ _ => decide_eq_true hfield]
  case isFalse hfield => simp [hfield]

theorem fieldKinds_subset_memberKinds : fieldKinds ⊆ memberKinds := by decide

theorem fields_eq_filter :
    src.fields tree = (src.methods tree).filter fun hit => isFieldText hit.text := by
  rw [methods, fields, Node.flatMap_findKinds, Node.flatMap_findKinds, List.filter_flatMap]
  congr 1
  funext n
  by_cases hkind : n.kind ∈ memberKinds
  · rw [if_pos hkind, src.filter_memberHits hkind]
    rfl
  · have hfield : n.kind ∉ ["field_declaration", "property_declaration"] :=
      fun h => hkind (fieldKinds_subset_memberKinds h)
    rw [if_neg hkind, if_neg hfield, List.filter_nil]

/-! ## Fields of a type among fields -/

theorem isWithin_enclosedHits (o : Occurrence) :
    List.Forall₂ Hit.IsWithin (src.enclosedHits o) (src.memberHits o.node) := by
  rw [enclosedHits, List.forall₂_map_left_iff, List.forall₂_same]
  intro hit _
  refine ⟨rfl, ?_⟩
  unfold enclosingSuffix
  cases src.enclosingType? o with
  | none => exact .inl (String.append_empty ..)
  | some owner => exact .inr ⟨owner, by simp [String.append_assoc]⟩

/-- Without what is said of the types around them, the fields of a type are
among all fields. -/
theorem exists_fields_of_fieldType :
    ∃ plain, plain.Sublist (src.fields tree) ∧
      List.Forall₂ Hit.IsWithin (src.fieldType type tree) plain := by
  refine ⟨(src.membersTyped (sameType · type) tree).flatMap fun o => src.memberHits o.node, ?_, ?_⟩
  · exact List.filter_sublist.flatMap _
  · rw [fieldType_eq]
    generalize src.membersTyped (sameType · type) tree = os
    induction os with
    | nil => exact .nil
    | cons o os ih => exact List.rel_append (src.isWithin_enclosedHits o) ih

/-! ## Uses among identifiers -/

theorem uses_subset_ident (name : String) : src.uses name tree ⊆ src.ident name tree := by
  intro hit hhit
  rw [uses_eq, mem_lineHits] at hhit
  obtain ⟨o, ho, rfl⟩ := hhit
  obtain ⟨hmem, hcode, hselected⟩ := Node.mem_findInCode.1 ho
  rw [ident_eq, mem_lineHits]
  simp only [Bool.and_eq_true] at hselected
  exact ⟨o, Node.mem_findInCode.2 ⟨hmem, hcode, hselected.1.1⟩, rfl⟩

/-! ## Queries -/

/-- The types with some base are among all types, the fields are the members
whose text says so, the fields of a type are fields up to what is said of the
type around them, and the uses of a name are among its mentions. -/
theorem query_restrictions (name : String) :
    (src.query tree (.implements type)).Sublist (src.query tree .classes) ∧
    src.query tree .fields =
      (src.query tree .methods).filter (fun hit => isFieldText hit.text) ∧
    (∃ plain, plain.Sublist (src.query tree .fields) ∧
      List.Forall₂ Hit.IsWithin (src.query tree (.fieldType type)) plain) ∧
    src.query tree (.uses name) ⊆ src.query tree (.ident name) :=
  ⟨src.implements_sublist_classes type tree, src.fields_eq_filter tree,
    src.exists_fields_of_fieldType type tree, src.uses_subset_ident tree name⟩

end Source

end SymbolIndex
