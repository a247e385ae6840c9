-- SUMMARY: The traversal with a stack is the recursive one: a node, then the trees of its children in order.
import SymbolIndex.Syntax.Node

/-!
# Traversal

A walk over a stack is the walk over its first part followed by that over the
rest, so a tree is told by its root and the trees below it. `preorder` says the
same by recursion on the tree.
-/

namespace SymbolIndex.Syntax

/-! ## Stacks -/

namespace Occurrence

theorem walk_append (xs ys : List Occurrence) : walk (xs ++ ys) = walk xs ++ walk ys := by
  induction xs using walk.induct with
  | case1 => rw [walk_nil, List.nil_append, List.nil_append]
  | case2 o stack ih =>
      rw [List.cons_append, walk_cons, walk_cons, ← List.append_assoc, ih, List.cons_append]

/-- A stack is walked tree by tree. -/
theorem walk_cons_eq (o : Occurrence) (stack : List Occurrence) :
    walk (o :: stack) = o :: (walk o.children ++ walk stack) := by
  rw [walk_cons, walk_append]

end Occurrence

/-! ## Nodes without their places -/

namespace Occurrence

theorem map_node_children (o : Occurrence) : o.children.map (·.node) = o.node.children := by
  apply List.ext_getElem?
  intro i
  simp [children, Function.comp_def]

/-- What a walk meets depends on the nodes of the stack alone, not on where they
stand. -/
theorem map_node_walk_congr {os os' : List Occurrence}
    (h : os.map (·.node) = os'.map (·.node)) :
    (walk os).map (·.node) = (walk os').map (·.node) := by
  induction os using walk.induct generalizing os' with
  | case1 => rw [List.map_eq_nil_iff.1 h.symm]
  | case2 o stack ih =>
      obtain ⟨o', stack', rfl, hnode, hstack⟩ := List.map_eq_cons_iff.1 h.symm
      rw [walk_cons, walk_cons, List.map_cons, List.map_cons, hnode]
      congr 1
      apply ih
      rw [List.map_append, List.map_append, map_node_children, map_node_children, hnode, hstack]

end Occurrence

/-- The nodes of a tree in document order, its root first. -/
def Node.nodes (n : Node) : List Node := n.occurrences.map (·.node)

theorem Node.nodes_eq (n : Node) : n.nodes = n :: n.children.flatMap Node.nodes := by
  have hforest : ∀ os : List Occurrence,
      (Occurrence.walk os).map (·.node) = (os.map (·.node)).flatMap Node.nodes := by
    intro os
    induction os with
    | nil =>
        rw [Occurrence.walk_nil]
        rfl
    | cons o os ih =>
        have htree : (Occurrence.walk [o]).map (·.node) = o.node.nodes :=
          Occurrence.map_node_walk_congr rfl
        rw [← List.singleton_append, Occurrence.walk_append, List.map_append, htree, ih]
        rfl
  rw [Node.nodes, Node.occurrences, Occurrence.walk_cons_eq, Occurrence.walk_nil, List.append_nil,
    List.map_cons, hforest, Occurrence.map_node_children]
  rfl

theorem Node.mem_nodes_self (n : Node) : n ∈ n.nodes := by
  rw [nodes_eq]
  exact List.mem_cons_self

theorem Node.nodes_subset_of_child {n c : Node} (hc : c ∈ n.children) : c.nodes ⊆ n.nodes := by
  intro m hm
  rw [nodes_eq n]
  exact List.mem_cons_of_mem _ (List.mem_flatMap.2 ⟨c, hc, hm⟩)

theorem Node.size_lt_of_mem_children {n c : Node} (hc : c ∈ n.children) : c.size < n.size := by
  have hle : ∀ cs : List Node, c ∈ cs → c.size ≤ size.sizeAll cs := by
    intro cs hmem
    induction cs with
    | nil => cases hmem
    | cons d ds ih =>
        rw [size.sizeAll]
        rcases List.mem_cons.1 hmem with rfl | hmem
        · exact Nat.le_add_right _ _
        · exact Nat.le_add_left_of_le (ih hmem)
  rw [size_eq n]
  exact Nat.lt_one_add_iff.2 (hle n.children hc)

theorem Node.nodes_subset_of_mem {n m : Node} (hm : m ∈ n.nodes) : m.nodes ⊆ n.nodes := by
  rw [nodes_eq, List.mem_cons, List.mem_flatMap] at hm
  rcases hm with rfl | ⟨c, hc, hm⟩
  · exact List.Subset.refl _
  · have := size_lt_of_mem_children hc
    exact List.Subset.trans (nodes_subset_of_mem hm) (nodes_subset_of_child hc)
termination_by n.size

/-! ## Recursion on the tree -/

/-- The tree and all below it in document order, given its position among the
children of its parent and what is above it. -/
def Node.preorder (index : Nat) (above : List (Node × Nat)) : Node → List Occurrence
  | .mk kind named field start stop children =>
      let n := .mk kind named field start stop children
      ⟨n, index, above⟩ :: preorderAll ((n, index) :: above) 0 children
where
  /-- The trees of some children of one node, the first of them at `index`. -/
  preorderAll (above : List (Node × Nat)) (index : Nat) : List Node → List Occurrence
    | [] => []
    | c :: cs => c.preorder index above ++ preorderAll above (index + 1) cs

namespace Occurrence

mutual

theorem walk_singleton (n : Node) (index : Nat) (above : List (Node × Nat)) :
    walk [⟨n, index, above⟩] = n.preorder index above := by
  cases n with
  | mk kind named field start stop children =>
      have hchildren := walk_mapIdx children 0
        ((Node.mk kind named field start stop children, index) :: above)
      simp only [Nat.zero_add] at hchildren
      rw [walk_cons_eq, walk_nil, List.append_nil, Node.preorder, ← hchildren]
      rfl

/-- The children of a node, from the one at `first` on. -/
theorem walk_mapIdx (cs : List Node) (first : Nat) (above : List (Node × Nat)) :
    walk (cs.mapIdx fun i c => ⟨c, first + i, above⟩) =
      Node.preorder.preorderAll above first cs := by
  cases cs with
  | nil => rw [List.mapIdx_nil, walk_nil, Node.preorder.preorderAll]
  | cons c cs =>
      have hfirst := walk_singleton c first above
      have hrest := walk_mapIdx cs (first + 1) above
      simp only [Nat.add_assoc, Nat.add_comm 1] at hrest
      rw [List.mapIdx_cons, ← List.singleton_append, walk_append, Node.preorder.preorderAll,
        Nat.add_zero, hfirst, hrest]

end

end Occurrence

/-- The nodes of a tree in document order, by recursion. -/
theorem Node.occurrences_eq_preorder (n : Node) : n.occurrences = n.preorder 0 [] :=
  Occurrence.walk_singleton n 0 []

end SymbolIndex.Syntax
