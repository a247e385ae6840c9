-- SUMMARY: A tree whose literals are emptied has the nodes outside literals, in the same order.
import SymbolIndex.Syntax.Kinds

/-!
# Literals

Comments and strings may have children: escape sequences, or the expressions of
an interpolated string. `emptyLiterals` takes them away. What is left are the
nodes outside literals, and the fields, indices and kinds by which one of them
is reached from another are the same.
-/

namespace SymbolIndex.Syntax

/-! ## Trees with empty literals -/

namespace Node

/-- What stands below the node is text and not code. -/
def isLiteral (n : Node) : Bool := literalKinds.contains n.kind

theorem isLiteral_eq_false {n : Node} {k : String} (hn : n.kind = k)
    (hk : literalKinds.contains k = false) : n.isLiteral = false := by
  rw [isLiteral, hn, hk]

/-- The tree in which no literal has children. -/
def emptyLiterals : Node → Node
  | .mk kind named field start stop children =>
      .mk kind named field start stop
        (if literalKinds.contains kind then [] else emptyLiteralsAll children)
where
  emptyLiteralsAll : List Node → List Node
    | [] => []
    | c :: cs => c.emptyLiterals :: emptyLiteralsAll cs

theorem emptyLiteralsAll_eq_map (cs : List Node) :
    emptyLiterals.emptyLiteralsAll cs = cs.map emptyLiterals := by
  induction cs with
  | nil => rfl
  | cons c cs ih => rw [emptyLiterals.emptyLiteralsAll, ih, List.map_cons]

theorem children_emptyLiterals (n : Node) :
    n.emptyLiterals.children = if n.isLiteral then [] else n.children.map emptyLiterals := by
  cases n
  rw [emptyLiterals, emptyLiteralsAll_eq_map]
  rfl

@[simp] theorem kind_emptyLiterals (n : Node) : n.emptyLiterals.kind = n.kind := by
  cases n
  rfl

@[simp] theorem named_emptyLiterals (n : Node) : n.emptyLiterals.named = n.named := by
  cases n
  rfl

@[simp] theorem field_emptyLiterals (n : Node) : n.emptyLiterals.field = n.field := by
  cases n
  rfl

@[simp] theorem start_emptyLiterals (n : Node) : n.emptyLiterals.start = n.start := by
  cases n
  rfl

@[simp] theorem stop_emptyLiterals (n : Node) : n.emptyLiterals.stop = n.stop := by
  cases n
  rfl

section Children

variable {n : Node} (h : n.isLiteral = false)

include h

theorem children_emptyLiterals_of_code :
    n.emptyLiterals.children = n.children.map emptyLiterals := by
  rw [children_emptyLiterals, h, if_neg Bool.false_ne_true]

theorem childByField?_emptyLiterals (f : String) :
    n.emptyLiterals.childByField? f = (n.childByField? f).map emptyLiterals := by
  simp only [childByField?, children_emptyLiterals_of_code h, List.find?_map, Function.comp_def,
    field_emptyLiterals]

theorem fieldIndex?_emptyLiterals (f : String) :
    n.emptyLiterals.fieldIndex? f = n.fieldIndex? f := by
  simp only [fieldIndex?, children_emptyLiterals_of_code h, List.findIdx?_map, Function.comp_def,
    field_emptyLiterals]

theorem namedChildren_emptyLiterals :
    n.emptyLiterals.namedChildren = n.namedChildren.map emptyLiterals := by
  simp only [namedChildren, children_emptyLiterals_of_code h, List.filter_map, Function.comp_def,
    named_emptyLiterals]

theorem childOfKind?_emptyLiterals (k : String) :
    n.emptyLiterals.childOfKind? k = (n.childOfKind? k).map emptyLiterals := by
  simp only [childOfKind?, children_emptyLiterals_of_code h, List.find?_map, Function.comp_def,
    kind_emptyLiterals]

end Children

end Node

/-! ## Inside and outside -/

namespace Occurrence

/-- A node stands inside a literal if its parent is one or stands inside one. -/
theorem inLiteral_of_parent? {o p : Occurrence} (hp : o.parent? = some p) :
    o.inLiteral = (p.node.isLiteral || p.inLiteral) := by
  obtain ⟨node, index, above⟩ := o
  cases above with
  | nil => cases hp
  | cons a above =>
      cases hp
      simp only [inLiteral, ancestorOfKinds?, ancestors, List.map_cons, List.find?_cons,
        Node.isLiteral]
      cases literalKinds.contains a.1.kind <;> rfl

theorem inLiteral_of_mem_children {o c : Occurrence} (hc : c ∈ o.children) :
    c.inLiteral = (o.node.isLiteral || o.inLiteral) := by
  obtain ⟨i, hi, rfl⟩ := List.mem_mapIdx.1 hc
  exact inLiteral_of_parent? rfl

/-- The occurrence in the tree with empty literals. -/
def emptyLiterals (o : Occurrence) : Occurrence :=
  ⟨o.node.emptyLiterals, o.index, o.above.map fun a => (a.1.emptyLiterals, a.2)⟩

@[simp] theorem node_emptyLiterals (o : Occurrence) :
    o.emptyLiterals.node = o.node.emptyLiterals := rfl

@[simp] theorem inLiteral_emptyLiterals (o : Occurrence) :
    o.emptyLiterals.inLiteral = o.inLiteral := by
  simp only [inLiteral, ancestorOfKinds?, ancestors, emptyLiterals, List.map_map, List.find?_map,
    Option.isSome_map, Function.comp_def, Node.kind_emptyLiterals]

theorem parent?_emptyLiterals (o : Occurrence) :
    o.emptyLiterals.parent? = o.parent?.map emptyLiterals := by
  obtain ⟨node, index, above⟩ := o
  cases above <;> rfl

/-- A node outside literals keeps its siblings. -/
theorem isFieldOfParent_emptyLiterals {o : Occurrence} (h : o.inLiteral = false) (f : String) :
    o.emptyLiterals.isFieldOfParent f = o.isFieldOfParent f := by
  obtain ⟨node, index, above⟩ := o
  cases above with
  | nil => rfl
  | cons a above =>
      rw [inLiteral_of_parent? rfl, Bool.or_eq_false_iff] at h
      change (a.1.emptyLiterals.fieldIndex? f == some index) = (a.1.fieldIndex? f == some index)
      rw [Node.fieldIndex?_emptyLiterals h.1]

/-- Below a literal, or below a node inside one, all is inside. -/
theorem filter_children_of_literal {o : Occurrence} (h : (o.node.isLiteral || o.inLiteral) = true) :
    o.children.filter (fun c => !c.inLiteral) = [] := by
  rw [List.filter_eq_nil_iff]
  intro c hc
  rw [inLiteral_of_mem_children hc, h]
  exact Bool.false_ne_true

theorem filter_children_of_code {o : Occurrence} (h : (o.node.isLiteral || o.inLiteral) = false) :
    o.children.filter (fun c => !c.inLiteral) = o.children := by
  rw [List.filter_eq_self]
  intro c hc
  rw [inLiteral_of_mem_children hc, h]
  rfl

/-- A node outside literals keeps the children that are outside too: all of
them, or none if it is a literal. -/
theorem children_emptyLiterals {o : Occurrence} (h : o.inLiteral = false) :
    o.emptyLiterals.children = (o.children.filter fun c => !c.inLiteral).map emptyLiterals := by
  rw [children, node_emptyLiterals, Node.children_emptyLiterals]
  cases hliteral : o.node.isLiteral with
  | true =>
      rw [filter_children_of_literal (by rw [hliteral, Bool.true_or])]
      rfl
  | false =>
      rw [filter_children_of_code (by rw [hliteral, h, Bool.or_false])]
      apply List.ext_getElem?
      intro i
      simp [children, emptyLiterals, Function.comp_def]

/-! ## Walks outside literals -/

/-- With empty literals a walk meets the nodes that are outside literals, in the
same order. -/
theorem walk_emptyLiterals (stack : List Occurrence) :
    walk ((stack.filter fun o => !o.inLiteral).map emptyLiterals) =
      ((walk stack).filter fun o => !o.inLiteral).map emptyLiterals := by
  induction stack using walk.induct with
  | case1 => rw [List.filter_nil, List.map_nil, walk_nil, List.filter_nil, List.map_nil]
  | case2 o stack ih =>
      rw [List.filter_append, List.map_append] at ih
      rw [walk_cons, List.filter_cons, List.filter_cons]
      cases ho : o.inLiteral with
      | true =>
          -- such a node is passed over with all that it puts on the stack
          rw [filter_children_of_literal (by rw [ho, Bool.or_true]), List.map_nil,
            List.nil_append] at ih
          exact ih
      | false =>
          rw [← children_emptyLiterals ho] at ih
          change walk (o.emptyLiterals :: _) = o.emptyLiterals :: _
          rw [walk_cons, ih]

end Occurrence

/-- The tree with empty literals has the nodes that are outside literals. -/
theorem Node.occurrences_emptyLiterals (tree : Node) :
    tree.emptyLiterals.occurrences =
      (tree.occurrences.filter fun o => !o.inLiteral).map Occurrence.emptyLiterals :=
  Occurrence.walk_emptyLiterals [.root tree]

end SymbolIndex.Syntax
