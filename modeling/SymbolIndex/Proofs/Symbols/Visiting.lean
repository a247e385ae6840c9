-- SUMMARY: A loop with a stack visits every node of a tree once, in document order, and then ends.
import Mathlib.Logic.Function.Iterate
import Mathlib.Logic.Relation
import SymbolIndex.Proofs.Symbols.Extracted
import SymbolIndex.Proofs.Syntax.Traversal

/-!
# Visiting a tree

A loop takes the node on top of a stack, visits it, and puts its children on the stack
in reverse. Whatever a visit does, the loop comes by the nodes of the recursive order, one
a round, until there are none left. No two of these are the same place in the tree.
-/

namespace SymbolIndex

namespace Syntax

namespace Occurrence

/-! ## Nodes below a node -/

/-- The node is `o` itself or stands somewhere below it. -/
def IsUnder (o : Occurrence) : Occurrence → Prop :=
  Relation.ReflTransGen (fun parent child => child ∈ parent.children) o

theorem mem_walk_of_mem {o : Occurrence} {stack : List Occurrence} (h : o ∈ stack) :
    o ∈ walk stack := by
  induction stack with
  | nil => exact absurd h List.not_mem_nil
  | cons p stack ih =>
      rw [walk_cons_eq]
      rcases List.mem_cons.1 h with rfl | h
      · exact List.mem_cons_self
      · exact List.mem_cons_of_mem _ (List.mem_append_right _ (ih h))

/-- With a node its children are met. -/
theorem mem_walk_of_mem_children {o c : Occurrence} {stack : List Occurrence}
    (ho : o ∈ walk stack) (hc : c ∈ o.children) : c ∈ walk stack := by
  induction stack using walk.induct with
  | case1 => exact absurd ho (by simp)
  | case2 p stack ih =>
      rw [walk_cons] at ho ⊢
      rcases List.mem_cons.1 ho with rfl | ho
      · exact List.mem_cons_of_mem _ (mem_walk_of_mem (List.mem_append_left _ hc))
      · exact List.mem_cons_of_mem _ (ih ho)

/-- A walk meets what stands under the nodes of the stack, and nothing else. -/
theorem mem_walk_iff {o : Occurrence} {stack : List Occurrence} :
    o ∈ walk stack ↔ ∃ p ∈ stack, p.IsUnder o := by
  constructor
  · intro h
    induction stack using walk.induct with
    | case1 => exact absurd h (by simp)
    | case2 p stack ih =>
        rw [walk_cons] at h
        rcases List.mem_cons.1 h with rfl | h
        · exact ⟨o, List.mem_cons_self, .refl⟩
        · obtain ⟨q, hq, hunder⟩ := ih h
          rcases List.mem_append.1 hq with hq | hq
          · exact ⟨p, List.mem_cons_self, .head hq hunder⟩
          · exact ⟨q, List.mem_cons_of_mem _ hq, hunder⟩
  · rintro ⟨p, hp, hunder⟩
    induction hunder with
    | refl => exact mem_walk_of_mem hp
    | tail _ hc ih => exact mem_walk_of_mem_children ih hc

/-! ## Places -/

/-- The positions among the children of a parent that lead to the node, its own first. -/
def place (o : Occurrence) : List Nat := o.index :: o.above.map Prod.snd

theorem place_of_mem_children {o c : Occurrence} (h : c ∈ o.children) :
    c.place = c.index :: o.place := by
  obtain ⟨i, -, rfl⟩ := List.mem_mapIdx.1 h
  rfl

theorem place_suffix_of_isUnder {o p : Occurrence} (h : o.IsUnder p) : o.place <:+ p.place := by
  induction h with
  | refl => exact List.suffix_refl _
  | tail _ hc ih =>
      rw [place_of_mem_children hc]
      exact ih.trans (List.suffix_cons _ _)

/-- Neither of the two nodes stands under the other one, as their places tell. -/
def Apart (o p : Occurrence) : Prop := ¬o.place <:+ p.place ∧ ¬p.place <:+ o.place

theorem Apart.of_child {o p c : Occurrence} (h : o.Apart p) (hc : c ∈ o.children) :
    c.Apart p := by
  rw [Apart, place_of_mem_children hc]
  refine ⟨fun hcp => h.1 ((List.suffix_cons _ _).trans hcp), fun hpc => ?_⟩
  rcases List.suffix_cons_iff.1 hpc with heq | hpo
  · exact h.1 (heq ▸ List.suffix_cons _ _)
  · exact h.2 hpo

theorem pairwise_apart_children (o : Occurrence) : o.children.Pairwise Apart := by
  refine List.pairwise_iff_getElem.2 fun i j hi hj hij => ?_
  have hplace : ∀ k (hk : k < o.children.length), o.children[k].place = k :: o.place := by
    intro k hk
    rw [place_of_mem_children (List.getElem_mem hk)]
    simp [children]
  have hne : ∀ {k l : Nat}, k ≠ l → ¬k :: o.place <:+ l :: o.place := by
    intro k l hkl hsuffix
    exact hkl (List.cons.inj (hsuffix.eq_of_length rfl)).1
  rw [Apart, hplace i hi, hplace j hj]
  exact ⟨hne (Nat.ne_of_lt hij), hne (Nat.ne_of_gt hij)⟩

/-- Of nodes that stand apart, none is met twice, nor is one below them. -/
theorem nodup_walk {stack : List Occurrence} (h : stack.Pairwise Apart) : (walk stack).Nodup := by
  induction stack using walk.induct with
  | case1 =>
      rw [walk_nil]
      exact List.nodup_nil
  | case2 o stack ih =>
      obtain ⟨ho, hstack⟩ := List.pairwise_cons.1 h
      have happart : (o.children ++ stack).Pairwise Apart :=
        List.pairwise_append.2
          ⟨pairwise_apart_children o, hstack, fun c hc p hp => (ho p hp).of_child hc⟩
      rw [walk_cons]
      refine List.nodup_cons.2 ⟨fun hmem => ?_, ih happart⟩
      obtain ⟨p, hp, hunder⟩ := mem_walk_iff.1 hmem
      have hsuffix := place_suffix_of_isUnder hunder
      rcases List.mem_append.1 hp with hp | hp
      · rw [place_of_mem_children hp] at hsuffix
        exact absurd hsuffix.length_le (by simp)
      · exact (ho p hp).2 hsuffix

theorem length_walk (stack : List Occurrence) : (walk stack).length = total stack := by
  induction stack using walk.induct with
  | case1 =>
      rw [walk_nil]
      rfl
  | case2 o stack ih =>
      have hchildren := total_children o
      rw [walk_cons, List.length_cons, ih, total_append, total]
      omega

/-! ## Rounds of a loop -/

/-- One round: the node on top of the stack, which is its last one, is visited, and its
children are put on the stack in reverse, so that the first child is on top. -/
def round (visit : σ → Occurrence → σ) : List Occurrence × σ → List Occurrence × σ
  | (stack, s) =>
      match stack.getLast? with
      | none => (stack, s)
      | some o => (stack.dropLast ++ o.children.reverse, visit s o)

theorem round_nil (visit : σ → Occurrence → σ) (s : σ) : round visit ([], s) = ([], s) := rfl

theorem round_reverse_cons (visit : σ → Occurrence → σ) (o : Occurrence)
    (stack : List Occurrence) (s : σ) :
    round visit ((o :: stack).reverse, s) = ((o.children ++ stack).reverse, visit s o) := by
  rw [List.reverse_cons, round, List.getLast?_concat]
  dsimp only
  rw [List.dropLast_concat, List.reverse_append]

/-- After some rounds, that many nodes of the walk have been visited, and the stack is
empty as soon as all have been. -/
theorem rounds_reverse (visit : σ → Occurrence → σ) (k : Nat) (stack : List Occurrence) (s : σ) :
    ((round visit)^[k] (stack.reverse, s)).2 = ((walk stack).take k).foldl visit s ∧
    (((round visit)^[k] (stack.reverse, s)).1 = [] ↔ total stack ≤ k) := by
  induction k generalizing stack s with
  | zero =>
      refine ⟨rfl, ?_⟩
      cases stack with
      | nil => simp [total]
      | cons o stack =>
          have hsize := o.node.size_eq
          simp [total]
          omega
  | succ k ih =>
      cases stack with
      | nil =>
          have hrest := ih [] s
          rw [Function.iterate_succ_apply, List.reverse_nil, round_nil]
          simpa [total] using hrest
      | cons o stack =>
          obtain ⟨hvisited, hstack⟩ := ih (o.children ++ stack) (visit s o)
          have hchildren := total_children o
          rw [Function.iterate_succ_apply, round_reverse_cons, hvisited, hstack, walk_cons,
            List.take_succ_cons, List.foldl_cons, total_append, total]
          exact ⟨rfl, by omega⟩

/-- What a search does with a node. -/
def collect (p : Occurrence → Bool) (found : List Occurrence) (o : Occurrence) :
    List Occurrence :=
  if p o then found ++ [o] else found

theorem foldl_collect (p : Occurrence → Bool) (os found : List Occurrence) :
    os.foldl (collect p) found = found ++ os.filter p := by
  induction os generalizing found with
  | nil => simp
  | cons o os ih =>
      rw [List.foldl_cons, ih, collect, List.filter_cons]
      split <;> simp

end Occurrence

end Syntax

open Syntax

/-! ## Records -/

namespace SymbolRecord

theorem append_empty (r : SymbolRecord) : r.append empty = r := by
  cases r with
  | mk namespaceName =>
      by_cases hname : namespaceName = "" <;> simp [append, empty, hname]

theorem empty_append (r : SymbolRecord) : empty.append r = r := rfl

theorem append_assoc (r s t : SymbolRecord) : (r.append s).append t = r.append (s.append t) := by
  unfold append
  by_cases hr : r.namespaceName = "" <;> simp [hr]

theorem foldl_append (r : SymbolRecord) (rs : List SymbolRecord) :
    rs.foldl append r = r.append (concat rs) := by
  induction rs generalizing r with
  | nil => exact (append_empty r).symm
  | cons s rs ih => rw [List.foldl_cons, ih, concat_cons, append_assoc]

end SymbolRecord

/-- What extraction does with a node. -/
def Source.visit (src : Source) (r : SymbolRecord) (o : Occurrence) : SymbolRecord :=
  r.append (src.symbols o.node)

theorem Source.extract_eq_foldl (src : Source) (tree : Node) :
    src.extract tree = (tree.occurrences.foldl src.visit .empty).normalized := by
  have hfold : tree.occurrences.foldl src.visit .empty =
      (tree.occurrences.map fun o => src.symbols o.node).foldl SymbolRecord.append .empty := by
    rw [List.foldl_map]
    rfl
  rw [extract, hfold, SymbolRecord.foldl_append, SymbolRecord.empty_append]

/-! ## Whole trees -/

/-- The recursive order has each node of the tree once. A loop from the root, whatever its
visits do, has visited the first `k` nodes of that order after `k` rounds, and its stack is
empty exactly from the round on that visits the last one. A search is the loop that keeps
the nodes it looks for, and extraction the one that adds what each node contributes. -/
theorem Syntax.Node.loop_in_document_order (tree : Node) :
    let order := tree.preorder 0 []
    let start := Occurrence.root tree
    (order.Nodup ∧ order.length = tree.size ∧ ∀ o, o ∈ order ↔ start.IsUnder o) ∧
    (∀ (σ : Type) (visit : σ → Occurrence → σ) (s : σ) (k : Nat),
      let after := (Occurrence.round visit)^[k] ([start], s)
      after.2 = (order.take k).foldl visit s ∧ (after.1 = [] ↔ tree.size ≤ k)) ∧
    (∀ p : Occurrence → Bool,
      tree.findAll p = order.filter p ∧
      (Occurrence.round (Occurrence.collect p))^[tree.size] ([start], []) =
        ([], tree.findAll p)) ∧
    ∀ src : Source,
      src.extract tree = (order.foldl src.visit .empty).normalized ∧
      src.extract tree =
        ((Occurrence.round src.visit)^[tree.size] ([start], .empty)).2.normalized := by
  intro order start
  have horder : Occurrence.walk [start] = order := tree.occurrences_eq_preorder
  have htotal : Occurrence.total [start] = tree.size := rfl
  have hlength : order.length = tree.size := by
    rw [← horder, Occurrence.length_walk, htotal]
  have hrounds : ∀ (σ : Type) (visit : σ → Occurrence → σ) (s : σ) (k : Nat),
      ((Occurrence.round visit)^[k] ([start], s)).2 = (order.take k).foldl visit s ∧
      (((Occurrence.round visit)^[k] ([start], s)).1 = [] ↔ tree.size ≤ k) := by
    intro σ visit s k
    have h := Occurrence.rounds_reverse visit k [start] s
    rwa [horder, htotal] at h
  have hlast : ∀ (σ : Type) (visit : σ → Occurrence → σ) (s : σ),
      (Occurrence.round visit)^[tree.size] ([start], s) = ([], order.foldl visit s) := by
    intro σ visit s
    obtain ⟨hvisited, hstack⟩ := hrounds σ visit s tree.size
    rw [← hlength, List.take_length, hlength] at hvisited
    exact Prod.ext (hstack.2 (Nat.le_refl _)) hvisited
  have hfind : ∀ p, tree.findAll p = order.filter p := fun p => by
    rw [Node.findAll, Node.occurrences_eq_preorder]
  refine ⟨⟨?_, hlength, fun o => ?_⟩, hrounds, fun p => ⟨hfind p, ?_⟩, fun src => ⟨?_, ?_⟩⟩
  · rw [← horder]
    exact Occurrence.nodup_walk (List.pairwise_singleton _ _)
  · rw [← horder, Occurrence.mem_walk_iff]
    simp
  · rw [hlast, Occurrence.foldl_collect, List.nil_append, hfind]
  · rw [src.extract_eq_foldl, Node.occurrences_eq_preorder]
  · rw [hlast, src.extract_eq_foldl, Node.occurrences_eq_preorder]

end SymbolIndex
