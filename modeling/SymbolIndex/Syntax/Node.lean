-- SUMMARY: Concrete syntax trees, their nodes in context, and the traversal in document order.

/-! # Syntax trees

A `Node` carries its kind, the field under which its parent holds it, its byte
range and its children. Nodes that are bare tokens (`{`, `class`) are not
`named`. An `Occurrence` is a node together with what is above it, so that
questions about ancestors and about identity have an answer: two occurrences
under one parent are the same node exactly if they have the same index. -/

namespace SymbolIndex.Syntax

inductive Node where
  | mk (kind : String) (named : Bool) (field : Option String) (start stop : Nat)
      (children : List Node)
  deriving Inhabited, Repr

namespace Node

/-! ## Parts of a node -/

def kind : Node → String
  | mk k _ _ _ _ _ => k

def named : Node → Bool
  | mk _ n _ _ _ _ => n

/-- The field of the parent that holds this node. -/
def field : Node → Option String
  | mk _ _ f _ _ _ => f

/-- Offset of the first byte. -/
def start : Node → Nat
  | mk _ _ _ s _ _ => s

/-- Offset behind the last byte. -/
def stop : Node → Nat
  | mk _ _ _ _ e _ => e

def children : Node → List Node
  | mk _ _ _ _ _ cs => cs

/-- Number of nodes in the tree, the root included. -/
def size : Node → Nat
  | mk _ _ _ _ _ cs => 1 + sizeAll cs
where
  sizeAll : List Node → Nat
    | [] => 0
    | c :: cs => size c + sizeAll cs

theorem size_eq (n : Node) : n.size = 1 + size.sizeAll n.children := by
  cases n
  rw [size, children]

/-- The first child under the field `f`. -/
def childByField? (n : Node) (f : String) : Option Node :=
  n.children.find? (·.field == some f)

/-- Every child under the field `f`. -/
def childrenByField (n : Node) (f : String) : List Node :=
  n.children.filter (·.field == some f)

/-- Position of the first child under the field `f`. -/
def fieldIndex? (n : Node) (f : String) : Option Nat :=
  n.children.findIdx? (·.field == some f)

def namedChildren (n : Node) : List Node := n.children.filter (·.named)

/-- The first child whose kind is `k`. -/
def childOfKind? (n : Node) (k : String) : Option Node :=
  n.children.find? (·.kind == k)

/-- The first child whose kind is one of `ks`. -/
def childOfKinds? (n : Node) (ks : List String) : Option Node :=
  n.children.find? (fun c => ks.contains c.kind)

end Node

/-! ## Nodes in context -/

/-- A node of a tree, its position among the children of its parent, and its
ancestors with their positions, the parent first. -/
structure Occurrence where
  node : Node
  index : Nat := 0
  above : List (Node × Nat) := []

namespace Occurrence

def root (n : Node) : Occurrence := ⟨n, 0, []⟩

def children (o : Occurrence) : List Occurrence :=
  o.node.children.mapIdx fun i c => ⟨c, i, (o.node, o.index) :: o.above⟩

def parent? (o : Occurrence) : Option Occurrence :=
  match o.above with
  | [] => none
  | (p, i) :: above => some ⟨p, i, above⟩

def ancestors (o : Occurrence) : List Node := o.above.map Prod.fst

/-- The nearest ancestor whose kind is one of `ks`. -/
def ancestorOfKinds? (o : Occurrence) (ks : List String) : Option Node :=
  o.ancestors.find? (fun a => ks.contains a.kind)

/-- The occurrence is the first child of its parent under the field `f`. -/
def isFieldOfParent (o : Occurrence) (f : String) : Bool :=
  match o.above with
  | [] => false
  | (p, _) :: _ => p.fieldIndex? f == some o.index

/-- Number of nodes under a list of occurrences, themselves included. -/
def total : List Occurrence → Nat
  | [] => 0
  | o :: os => o.node.size + total os

theorem total_append (xs ys : List Occurrence) : total (xs ++ ys) = total xs + total ys := by
  induction xs with
  | nil => simp [total]
  | cons x xs ih => simp [total, ih, Nat.add_assoc]

theorem total_mapIdx (f : Nat → Node → Occurrence) (h : ∀ i c, (f i c).node = c)
    (cs : List Node) : total (cs.mapIdx f) = Node.size.sizeAll cs := by
  induction cs generalizing f with
  | nil => simp [total, Node.size.sizeAll]
  | cons c cs ih =>
      rw [List.mapIdx_cons, total, Node.size.sizeAll, h, ih _ (fun i c => h (i + 1) c)]

theorem total_children (o : Occurrence) : total o.children + 1 = o.node.size := by
  unfold children
  rw [total_mapIdx _ (fun _ _ => rfl), Node.size_eq]
  omega

/-- Takes the top of the stack, then goes on with its children on top of the
rest. Trees of generated code may be nested deeper than a call stack. -/
def walk : List Occurrence → List Occurrence
  | [] => []
  | o :: stack => o :: walk (o.children ++ stack)
termination_by stack => total stack
decreasing_by
  have := total_children o
  simp only [total_append, total]
  omega

@[simp] theorem walk_nil : walk [] = [] := by simp [walk]

theorem walk_cons (o : Occurrence) (stack : List Occurrence) :
    walk (o :: stack) = o :: walk (o.children ++ stack) := by
  rw [walk]

end Occurrence

namespace Node

/-- Every node under `n`, itself included, in document order. -/
def occurrences (n : Node) : List Occurrence := Occurrence.walk [Occurrence.root n]

/-- The nodes under `n` that satisfy `p`, in document order. -/
def findAll (n : Node) (p : Occurrence → Bool) : List Occurrence := n.occurrences.filter p

/-- The nodes under `n` whose kind is one of `ks`, in document order. -/
def findKinds (n : Node) (ks : List String) : List Occurrence :=
  n.findAll (fun o => ks.contains o.node.kind)

end Node

end SymbolIndex.Syntax
