-- SUMMARY: What a tree contributes depends on the texts of its nodes alone, so bytes behind them do not count.
import Mathlib.Data.List.Basic
import SymbolIndex.Proofs.Symbols.Contributions

/-!
# Locality of extraction

Extraction reads no more of a source than the texts of the nodes below the root
it is given. Two sources that agree on these give the same record, and a file
with more behind it agrees with the file on every tree of the file.
-/

namespace SymbolIndex

open Syntax

/-! ## Lookups of children -/

namespace Syntax.Node

variable {n c : Node}

theorem mem_children_of_childByField? {f : String} (h : n.childByField? f = some c) :
    c ∈ n.children :=
  List.mem_of_find?_eq_some h

theorem mem_children_of_childOfKind? {k : String} (h : n.childOfKind? k = some c) :
    c ∈ n.children :=
  List.mem_of_find?_eq_some h

theorem mem_children_of_childOfKinds? {ks : List String} (h : n.childOfKinds? ks = some c) :
    c ∈ n.children :=
  List.mem_of_find?_eq_some h

theorem mem_children_of_namedChildren (h : c ∈ n.namedChildren) : c ∈ n.children :=
  List.mem_of_mem_filter h

theorem mem_children_of_head?_namedChildren (h : n.namedChildren.head? = some c) :
    c ∈ n.children :=
  mem_children_of_namedChildren (List.mem_of_head? h)

end Syntax.Node

/-! ## Sources that agree -/

/-- A range within a text is the same one if the text goes on. -/
theorem Bytes.range_append {bytes : Bytes} {start stop : Nat} (h : stop ≤ bytes.length)
    (more : Bytes) :
    Bytes.range (bytes ++ more) start stop = Bytes.range bytes start stop := by
  unfold Bytes.range
  by_cases hstart : start ≤ stop
  · rw [if_pos ⟨hstart, by rw [List.length_append]; omega⟩, if_pos ⟨hstart, h⟩,
      List.drop_append_of_le_length (Nat.le_trans hstart h), List.take_append_of_le_length]
    rw [List.length_drop]
    omega
  · rw [if_neg fun hrange => hstart hrange.1, if_neg fun hrange => hstart hrange.1]

namespace Source

/-- The two sources have the same texts for the nodes of a tree. -/
def AgreeOn (src src' : Source) (tree : Node) : Prop := ∀ m ∈ tree.nodes, src'.text m = src.text m

variable {src src' : Source} {n : Node}

theorem AgreeOn.mono (h : AgreeOn src src' n) {m : Node} (hsub : m.nodes ⊆ n.nodes) :
    AgreeOn src src' m :=
  fun k hk => h k (hsub hk)

theorem AgreeOn.child (h : AgreeOn src src' n) {c : Node} (hc : c ∈ n.children) :
    AgreeOn src src' c :=
  h.mono (Node.nodes_subset_of_child hc)

/-! ## Names and types -/

theorem text_agreeOn (h : AgreeOn src src' n) : src'.text n = src.text n := h n n.mem_nodes_self

theorem trimmed_agreeOn (h : AgreeOn src src' n) : src'.trimmed n = src.trimmed n := by
  rw [trimmed, text_agreeOn h, trimmed]

theorem fieldText?_agreeOn (h : AgreeOn src src' n) (f : String) :
    src'.fieldText? n f = src.fieldText? n f :=
  Option.map_congr fun _ hc => trimmed_agreeOn (h.child (Node.mem_children_of_childByField? hc))

theorem declaredName?_agreeOn (h : AgreeOn src src' n) :
    src'.declaredName? n = src.declaredName? n := by
  have hid : (n.childOfKind? "identifier").map src'.trimmed =
      (n.childOfKind? "identifier").map src.trimmed :=
    Option.map_congr fun _ hc => trimmed_agreeOn (h.child (Node.mem_children_of_childOfKind? hc))
  rw [declaredName?, fieldText?_agreeOn h, hid, declaredName?]

theorem typeName_agreeOn (h : AgreeOn src src' n) : src'.typeName n = src.typeName n := by
  have hgeneric : src'.genericName n = src.genericName n := by
    unfold genericName
    cases hid : n.childOfKind? "identifier" with
    | none => exact congrArg Text.bareName (text_agreeOn h)
    | some id => exact trimmed_agreeOn (h.child (Node.mem_children_of_childOfKind? hid))
  rw [typeName, hgeneric, text_agreeOn h, typeName]

theorem returnType?_agreeOn (h : AgreeOn src src' n) : src'.returnType? n = src.returnType? n := by
  rw [returnType?, fieldText?_agreeOn h, fieldText?_agreeOn h, returnType?]

theorem memberType?_agreeOn (h : AgreeOn src src' n) : src'.memberType? n = src.memberType? n := by
  unfold memberType?
  rw [fieldText?_agreeOn h]
  cases hd : n.childOfKind? "variable_declaration" with
  | none => rfl
  | some d =>
      dsimp only
      rw [fieldText?_agreeOn (h.child (Node.mem_children_of_childOfKind? hd))]

theorem variableNames_agreeOn (h : AgreeOn src src' n) :
    src'.variableNames n = src.variableNames n := by
  unfold variableNames
  cases hd : n.childOfKind? "variable_declaration" with
  | none => rfl
  | some d =>
      have hd' := h.child (Node.mem_children_of_childOfKind? hd)
      refine List.filterMap_congr fun v hv => ?_
      have hv' := hd'.child (Node.mem_children_of_namedChildren (List.mem_of_mem_filter hv))
      exact declaredName?_agreeOn hv'

theorem declaredNames_agreeOn (h : AgreeOn src src' n) :
    src'.declaredNames n = src.declaredNames n := by
  rw [declaredNames, variableNames_agreeOn h, declaredName?_agreeOn h, declaredNames]

/-! ## Parameters and signatures -/

theorem mem_children_of_parametersOf {list p : Node} (h : p ∈ parametersOf list) :
    p ∈ list.children :=
  Node.mem_children_of_namedChildren (List.mem_of_mem_filter h)

theorem mem_children_of_parameterList? {list : Node} (h : parameterList? n = some list) :
    list ∈ n.children := by
  unfold parameterList? at h
  split at h
  · rename_i hfield
    cases h
    exact Node.mem_children_of_childByField? hfield
  · exact Node.mem_children_of_childOfKinds? h

theorem AgreeOn.parameter (h : AgreeOn src src' n) {p : Node} (hp : p ∈ parameters n) :
    AgreeOn src src' p := by
  unfold parameters at hp
  split at hp
  · rename_i hlist
    exact (h.child (mem_children_of_parameterList? hlist)).child (mem_children_of_parametersOf hp)
  · cases hp

theorem parameterType?_agreeOn {p : Node} (h : AgreeOn src src' p) :
    src'.parameterType? p = src.parameterType? p := by
  refine Option.map_congr fun t ht => ?_
  have hchild : t ∈ p.children := List.mem_of_mem_filter (List.mem_of_find?_eq_some ht)
  exact trimmed_agreeOn (h.child hchild)

theorem parameterText_agreeOn {p : Node} (h : AgreeOn src src' p) (withNames : Bool) :
    src'.parameterText withNames p = src.parameterText withNames p := by
  rw [parameterText, parameterType?_agreeOn h, parameterName?, declaredName?_agreeOn h,
    parameterText, parameterName?]

theorem signature?_agreeOn (h : AgreeOn src src' n) (withNames : Bool) :
    src'.signature? withNames n = src.signature? withNames n := by
  have hparams : (parameters n).map (src'.parameterText withNames) =
      (parameters n).map (src.parameterText withNames) :=
    List.map_congr_left fun _ hp => parameterText_agreeOn (h.parameter hp) withNames
  rw [signature?, declaredName?_agreeOn h, returnType?_agreeOn h, hparams, signature?]

theorem parameterTypes_agreeOn (h : AgreeOn src src' n) :
    (parameters n).filterMap src'.parameterType? = (parameters n).filterMap src.parameterType? :=
  List.filterMap_congr fun _ hp => parameterType?_agreeOn (h.parameter hp)

/-! ## Base lists, using directives and calls -/

theorem baseTypeNode?_cases {entry t : Node} (h : baseTypeNode? entry = some t) :
    t = entry ∨ t ∈ entry.children := by
  unfold baseTypeNode? at h
  split at h
  · exact .inl (Option.some.inj h).symm
  split at h
  · right
    split at h
    · rename_i htype
      cases h
      exact Node.mem_children_of_childByField? htype
    split at h
    · rename_i hname
      cases h
      exact Node.mem_children_of_childByField? hname
    · exact Node.mem_children_of_head?_namedChildren h
  · cases h

theorem baseTypes_agreeOn (h : AgreeOn src src' n) : src'.baseTypes n = src.baseTypes n := by
  unfold baseTypes
  cases hlist : n.childOfKind? "base_list" with
  | none => rfl
  | some list =>
      have hlist' := h.child (Node.mem_children_of_childOfKind? hlist)
      refine congrArg _ (List.map_congr_left fun t ht => ?_)
      obtain ⟨entry, hentry, hnode⟩ := List.mem_filterMap.1 ht
      have hentry' := hlist'.child (Node.mem_children_of_namedChildren hentry)
      rcases baseTypeNode?_cases hnode with rfl | hchild
      · exact typeName_agreeOn hentry'
      · exact typeName_agreeOn (hentry'.child hchild)

theorem usingTarget?_agreeOn (h : AgreeOn src src' n) :
    src'.usingTarget? n = src.usingTarget? n := by
  refine Option.map_congr fun c hc => ?_
  have hnamed := List.mem_reverse.1 (List.mem_of_find?_eq_some hc)
  exact trimmed_agreeOn (h.child (Node.mem_children_of_namedChildren hnamed))

theorem AgreeOn.function (h : AgreeOn src src' n) {f : Node} (hf : function? n = some f) :
    AgreeOn src src' f := by
  rcases Option.or_eq_some_iff.1 hf with hfield | ⟨-, hhead⟩
  · exact h.child (Node.mem_children_of_childByField? hfield)
  · exact h.child (Node.mem_children_of_head?_namedChildren hhead)

theorem AgreeOn.calledName (h : AgreeOn src src' n) {c : Node} (hc : calledName? n = some c) :
    AgreeOn src src' c := by
  unfold calledName? at hc
  split at hc
  case isTrue => exact h.child (Node.mem_children_of_childByField? hc)
  split at hc
  case isTrue =>
    cases hc
    exact h
  split at hc
  case isTrue =>
    obtain ⟨binding, hbinding, hname⟩ := Option.bind_eq_some_iff.1 hc
    have hnamed := List.mem_reverse.1 (List.mem_of_find?_eq_some hbinding)
    exact (h.child (Node.mem_children_of_namedChildren hnamed)).child
      (Node.mem_children_of_childByField? hname)
  case isFalse => cases hc

theorem callee?_agreeOn (h : AgreeOn src src' n) : src'.callee? n = src.callee? n := by
  have hname : (calleeNode? n).map src'.typeName = (calleeNode? n).map src.typeName :=
    Option.map_congr fun c hc => by
      rw [calleeNode?_eq] at hc
      obtain ⟨f, hf, hcalled⟩ := Option.bind_eq_some_iff.1 hc
      exact typeName_agreeOn ((h.function hf).calledName hcalled)
  rw [callee?, hname, callee?]

/-! ## Contributions -/

theorem namespaceSymbols_agreeOn (h : AgreeOn src src' n) :
    src'.namespaceSymbols n = src.namespaceSymbols n := by
  have hname : (n.childOfKinds? ["qualified_name", "identifier"]).map src'.trimmed =
      (n.childOfKinds? ["qualified_name", "identifier"]).map src.trimmed :=
    Option.map_congr fun _ hc => trimmed_agreeOn (h.child (Node.mem_children_of_childOfKinds? hc))
  rw [namespaceSymbols, fieldText?_agreeOn h, hname, namespaceSymbols]

theorem methodSymbols_agreeOn (h : AgreeOn src src' n) :
    src'.methodSymbols n = src.methodSymbols n := by
  rw [methodSymbols, declaredName?_agreeOn h, signature?_agreeOn h, returnType?_agreeOn h,
    parameterTypes_agreeOn h, methodSymbols]

theorem symbols_agreeOn (h : AgreeOn src src' n) : src'.symbols n = src.symbols n := by
  rw [symbols, namespaceSymbols_agreeOn h, usingSymbols, usingTarget?_agreeOn h, attributeSymbols,
    fieldText?_agreeOn h, typeSymbols, declaredName?_agreeOn h, baseTypes_agreeOn h,
    methodSymbols_agreeOn h, constructorSymbols, declaredName?_agreeOn h, memberSymbols,
    declaredNames_agreeOn h, memberType?_agreeOn h, callSymbols, callee?_agreeOn h]
  rfl

/-! ## Records -/

/-- Sources that agree on a tree have the same record for it. -/
theorem extract_agreeOn (h : AgreeOn src src' n) : src'.extract n = src.extract n := by
  have hsymbols : n.nodes.map src'.symbols = n.nodes.map src.symbols := by
    exact List.map_congr_left fun m hm => symbols_agreeOn (h.mono (Node.nodes_subset_of_mem hm))
  rw [extract_eq_nodes, hsymbols, extract_eq_nodes]

/-! ## Longer files -/

/-- A file with more behind it agrees with the file on what lies in the file. -/
theorem agreeOn_append {bytes : Bytes} (h : ∀ m ∈ n.nodes, m.stop ≤ bytes.length) (more : Bytes) :
    AgreeOn (ofBytes bytes) (ofBytes (bytes ++ more)) n := fun m hm =>
  congrArg Utf8.decode (Bytes.range_append (h m hm) more)

end Source

end SymbolIndex
