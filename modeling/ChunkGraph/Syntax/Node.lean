/-!
# Nodes of syntax trees

A node has the kind that its grammar gives it, may be named or anonymous (a
bracket, a keyword), may fill a field of its parent, and covers the bytes from
`start` up to `stop` of the source. Kinds and fields belong to the grammars
and are open, so they are texts.

## Main definitions

* `Node` — the tree.
* `Node.size` — the number of nodes of a tree, the measure of every traversal.
-/

namespace ChunkGraph.Syntax

/-- A node of a syntax tree. -/
inductive Node where
  /-- A node with all its children in order. -/
  | mk (kind : String) (named : Bool) (field : String) (start stop : Nat) (children : List Node)
  deriving Repr, Inhabited

namespace Node

/-- The kind the grammar gives the node. -/
def kind : Node → String
  | .mk kind .. => kind

/-- The node is named rather than punctuation or a keyword. -/
def named : Node → Bool
  | .mk _ named .. => named

/-- The field of the parent that the node fills, empty if none. -/
def field : Node → String
  | .mk _ _ field .. => field

/-- The first byte covered. -/
def start : Node → Nat
  | .mk _ _ _ start .. => start

/-- The first byte behind the node. -/
def stop : Node → Nat
  | .mk _ _ _ _ stop _ => stop

/-- All children in order. -/
def children : Node → List Node
  | .mk _ _ _ _ _ children => children

mutual

/-- The number of nodes of a tree. -/
def size : Node → Nat
  | .mk _ _ _ _ _ children => sizes children + 1

/-- The number of nodes of a list of trees. -/
def sizes : List Node → Nat
  | [] => 0
  | node :: rest => node.size + sizes rest

end

@[simp] theorem sizes_nil : sizes [] = 0 := by simp [sizes]

@[simp] theorem sizes_cons (node : Node) (rest : List Node) :
    sizes (node :: rest) = node.size + sizes rest := by simp [sizes]

theorem size_eq (node : Node) : node.size = sizes node.children + 1 := by
  cases node
  simp [size, children]

theorem size_pos (node : Node) : 0 < node.size := by
  rw [size_eq]
  omega

theorem size_le_sizes {node : Node} {nodes : List Node} (h : node ∈ nodes) :
    node.size ≤ sizes nodes := by
  induction nodes with
  | nil => cases h
  | cons head rest ih =>
      rw [sizes_cons]
      cases h with
      | head => omega
      | tail _ h =>
          have := ih h
          omega

/-- A child has fewer nodes than its parent. -/
theorem size_lt_of_mem_children {child node : Node} (h : child ∈ node.children) :
    child.size < node.size := by
  have := size_le_sizes h
  rw [size_eq node]
  omega

end Node

end ChunkGraph.Syntax
