-- SUMMARY: A recorded attribute is found again by its name exactly if it is written without a qualifier.
import Mathlib.Data.List.TakeWhile
import SymbolIndex.Proofs.Symbols.Contributions
import SymbolIndex.Proofs.Syntax.Traversal
import SymbolIndex.Query.Run

/-!
# Attributes by name

A record has the last part of an attribute's name, without the suffix
`Attribute`. The query compares its filter with the whole written name, as it
stands and without the suffix. So `[ObsoleteAttribute]` is found as `Obsolete`,
and `[System.Obsolete]` is not.
-/

namespace SymbolIndex

open Syntax

/-! ## Names -/

namespace Text

theorem stripBack?_eq_some_iff [DecidableEq α] {p xs ys : List α} :
    stripBack? p xs = some ys ↔ xs = ys ++ p := by
  rw [stripBack?, Option.map_eq_some_iff]
  constructor
  · rintro ⟨zs, hzs, rfl⟩
    rw [← List.reverse_reverse xs, stripFront?_eq_some_iff.1 hzs, List.reverse_append,
      List.reverse_reverse]
  · rintro rfl
    refine ⟨ys.reverse, stripFront?_eq_some_iff.2 ?_, List.reverse_reverse ys⟩
    rw [List.reverse_append]

/-- The name of an attribute is its written name, or what stands in front of the
suffix. -/
theorem attributeName_cases (s : String) :
    attributeName s = s ∨ s.toList = (attributeName s).toList ++ "Attribute".toList := by
  unfold attributeName
  split
  case h_1 c cs hstrip =>
    refine .inr ?_
    rw [stripBack?_eq_some_iff.1 hstrip, @String.toList_ofList (c :: cs)]
  case h_2 => exact .inl rfl

/-- The suffix has no dot, so a name is qualified with it if it is without. -/
theorem dot_mem_attributeName {s : String} :
    '.' ∈ (attributeName s).toList ↔ '.' ∈ s.toList := by
  rcases attributeName_cases s with h | h
  · rw [h]
  · have hsuffix : '.' ∉ "Attribute".toList := by decide
    rw [h, List.mem_append, or_iff_left hsuffix]

theorem dot_notMem_lastSegment (s : String) : '.' ∉ (lastSegment s).toList := by
  rw [lastSegment, String.toList_ofList, List.mem_reverse]
  intro hdot
  simpa using List.mem_takeWhile_imp hdot

theorem lastSegment_of_notMem {s : String} (h : '.' ∉ s.toList) : lastSegment s = s := by
  have hall : ∀ c ∈ s.toList.reverse, decide (c ≠ '.') = true := by
    intro c hc
    exact decide_eq_true fun hdot => h (hdot ▸ List.mem_reverse.1 hc)
  rw [lastSegment, List.takeWhile_eq_self_iff.2 hall, List.reverse_reverse, String.ofList_toList]

end Text

namespace Source

/-- A filter with the recorded name means the attributes without a qualifier. -/
theorem attributeMatches_recorded_iff (written : String) :
    attributeMatches (some (Text.attributeName (Text.lastSegment written))) written = true ↔
      '.' ∉ written.toList := by
  have hrecorded : '.' ∉ (Text.attributeName (Text.lastSegment written)).toList := by
    rw [Text.dot_mem_attributeName]
    exact Text.dot_notMem_lastSegment written
  simp only [attributeMatches, Bool.or_eq_true, decide_eq_true_eq]
  constructor
  · rintro (h | h)
    · exact h ▸ hrecorded
    · rw [← Text.dot_mem_attributeName, h]
      exact hrecorded
  · intro h
    rw [Text.lastSegment_of_notMem h]
    exact .inr rfl

/-! ## Attributes of a tree -/

variable (src : Source)

/-- The attributes that a filter lets through. -/
def attributesNamed (name : String) (tree : Node) : List Occurrence :=
  (tree.findKinds ["attribute"]).filter fun o =>
    (src.fieldText? o.node "name").any (attributeMatches (some name))

/-- The written name has a qualifier. -/
def isQualified (n : Node) : Bool := (src.fieldText? n "name").any (·.toList.contains '.')

theorem attributeHit?_filtered (name : String) (n : Node) :
    src.attributeHit? (some name) n =
      if (src.fieldText? n "name").any (attributeMatches (some name)) then
        src.attributeHit? none n
      else none := by
  unfold attributeHit?
  cases src.fieldText? n "name" with
  | none => rfl
  | some written => simp [attributeMatches]

/-- An attribute has a hit of its own if it has a name. -/
theorem isSome_attributeHit? {n : Node} (h : (src.fieldText? n "name").isSome) :
    (src.attributeHit? none n).isSome := by
  unfold attributeHit?
  cases hname : src.fieldText? n "name" with
  | none => simp [hname] at h
  | some written => simp [attributeMatches]

/-- The query reports the attributes that the filter lets through, one hit for
each. -/
theorem map_some_attrs (name : String) (tree : Node) :
    (src.attrs (some name) tree).map some =
      (src.attributesNamed name tree).map fun o => src.attributeHit? none o.node := by
  unfold attrs attributesNamed
  induction tree.findKinds ["attribute"] with
  | nil => rfl
  | cons o os ih =>
      rw [List.filterMap_cons, attributeHit?_filtered, List.filter_cons]
      cases hkept : (src.fieldText? o.node "name").any (attributeMatches (some name)) with
      | false =>
          rw [if_neg Bool.false_ne_true, if_neg Bool.false_ne_true]
          exact ih
      | true =>
          have hname : (src.fieldText? o.node "name").isSome := Option.isSome_of_any hkept
          obtain ⟨hit, hhit⟩ := Option.isSome_iff_exists.1 (src.isSome_attributeHit? hname)
          rw [if_pos rfl, if_pos rfl, hhit, List.map_cons, List.map_cons, ih, hhit]

/-! ## Recorded names -/

/-- Every recorded name comes from attributes of the tree, and the query for the
name reports exactly the attributes that the filter lets through, each with the
hit it has without a filter. Of the attributes that the name comes from these
are the ones without a qualifier. -/
theorem finds_recorded_attribute_iff (tree : Node) (name : String) :
    (name ∈ (src.extract tree).attributes ↔
      (∃ o ∈ tree.occurrences, name ∈ (src.symbols o.node).attributes) ∧ name ≠ "") ∧
    (src.query tree (.attrs (some name))).map some =
      (src.attributesNamed name tree).map (fun o => src.attributeHit? none o.node) ∧
    ∀ o ∈ tree.occurrences, name ∈ (src.symbols o.node).attributes →
      (o ∈ src.attributesNamed name tree ↔ src.isQualified o.node = false) := by
  refine ⟨SymbolRecord.isList_attributes.mem_extract, src.map_some_attrs name tree, ?_⟩
  intro o ho hname
  obtain ⟨hkind, written, hwritten, rfl⟩ := mem_attributes_symbols.1 hname
  have hfound : o ∈ tree.findKinds ["attribute"] :=
    List.mem_filter.2 ⟨ho, by simp [hkind]⟩
  have hqualified : src.isQualified o.node = false ↔ '.' ∉ written.toList := by
    simp [isQualified, hwritten]
  rw [attributesNamed, List.mem_filter, and_iff_right hfound, hwritten, Option.any_some,
    attributeMatches_recorded_iff, hqualified]

end Source

/-- The tree of `[System.Obsolete, ObsoleteAttribute] class A { }`. -/
def Syntax.Node.twoAttributes : Node :=
  .mk "compilation_unit" true none 0 48
    [.mk "class_declaration" true none 0 48
      [.mk "attribute_list" true none 0 36
          [.mk "[" false none 0 1 [], qualified, .mk "," false none 16 17 [], suffixed,
            .mk "]" false none 35 36 []],
        .mk "class" false none 37 42 [], .mk "identifier" true (some "name") 43 44 [],
        .mk "declaration_list" true (some "body") 45 48
          [.mk "\x7b" false none 45 46 [], .mk "\x7d" false none 47 48 []]]]
where
  qualified : Node :=
    .mk "attribute" true none 1 16
      [.mk "qualified_name" true (some "name") 1 16
        [.mk "identifier" true (some "qualifier") 1 7 [], .mk "." false none 7 8 [],
          .mk "identifier" true (some "name") 8 16 []]]
  suffixed : Node :=
    .mk "attribute" true none 18 35 [.mk "identifier" true (some "name") 18 35 []]

namespace Source

/-- Both attributes are recorded as `Obsolete`. The filter lets the one without
a qualifier through. -/
theorem finds_recorded_attribute_twoAttributes :
    let src := Source.ofBytes (Utf8.encode "[System.Obsolete, ObsoleteAttribute] class A { }")
    (∃ o ∈ Node.twoAttributes.occurrences, "Obsolete" ∈ (src.symbols o.node).attributes ∧
      src.isQualified o.node = true ∧ o ∉ src.attributesNamed "Obsolete" .twoAttributes) ∧
    ∃ o ∈ Node.twoAttributes.occurrences, "Obsolete" ∈ (src.symbols o.node).attributes ∧
      src.isQualified o.node = false ∧ o ∈ src.attributesNamed "Obsolete" .twoAttributes := by
  intro src
  obtain ⟨-, -, hfinds⟩ := src.finds_recorded_attribute_iff .twoAttributes "Obsolete"
  have hqualified : ∃ o ∈ Node.twoAttributes.occurrences,
      "Obsolete" ∈ (src.symbols o.node).attributes ∧ src.isQualified o.node = true := by
    rw [Node.occurrences_eq_preorder]
    decide +kernel
  have hbare : ∃ o ∈ Node.twoAttributes.occurrences,
      "Obsolete" ∈ (src.symbols o.node).attributes ∧ src.isQualified o.node = false := by
    rw [Node.occurrences_eq_preorder]
    decide +kernel
  obtain ⟨o, ho, hname, hdot⟩ := hqualified
  obtain ⟨o', ho', hname', hdot'⟩ := hbare
  refine ⟨⟨o, ho, hname, hdot, fun hmem => ?_⟩, o', ho', hname', hdot', ?_⟩
  · exact Bool.false_ne_true (((hfinds o ho hname).1 hmem).symm.trans hdot)
  · exact (hfinds o' ho' hname').2 hdot'

/-- `[System.Obsolete]` is recorded as `Obsolete`, and the query for `Obsolete`
has no hit for it. -/
theorem misses_qualified_attribute :
    let src := Source.ofBytes (Utf8.encode "[System.Obsolete, ObsoleteAttribute] class A { }")
    "Obsolete" ∈ (src.extract .twoAttributes).attributes ∧
    (∃ o ∈ Node.twoAttributes.occurrences, "Obsolete" ∈ (src.symbols o.node).attributes ∧
      src.attributeHit? none o.node = some ⟨1, "[System.Obsolete]"⟩) ∧
    src.query .twoAttributes (.attrs (some "Obsolete")) = [⟨1, "[ObsoleteAttribute]"⟩] := by
  intro src
  have hrecorded : ∃ o ∈ Node.twoAttributes.occurrences,
      "Obsolete" ∈ (src.symbols o.node).attributes ∧
        src.attributeHit? none o.node = some ⟨1, "[System.Obsolete]"⟩ := by
    rw [Node.occurrences_eq_preorder]
    decide +kernel
  have hfound : src.query .twoAttributes (.attrs (some "Obsolete")) =
      [⟨1, "[ObsoleteAttribute]"⟩] := by
    simp only [Source.query, Source.attrs, Node.findKinds, Node.findAll,
      Node.occurrences_eq_preorder]
    decide +kernel
  obtain ⟨o, ho, hname, -⟩ := id hrecorded
  exact ⟨SymbolRecord.isList_attributes.mem_extract.2 ⟨⟨o, ho, hname⟩, by decide⟩, hrecorded,
    hfound⟩

end Source

end SymbolIndex
