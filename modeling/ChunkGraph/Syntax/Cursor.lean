import ChunkGraph.Syntax.Node

/-!
# Places in a syntax tree

Questions about a declaration often look upwards: is its parent an export
statement, which decorators precede it? A `Cursor` is a node together with the
way back to the root, one frame for every level: the parent and the siblings
before the node, the nearest first. Moving to a child adds a frame and moving
to the parent takes one off.

## Main definitions

* `Frame`, `Cursor` — a node and what stands above it.
* `Cursor.children`, `Cursor.namedChildren`, `Cursor.child?` — downwards.
* `Cursor.parent?`, `Cursor.previousNamed` — upwards and to the left.

## Main statements

* `Cursor.parent?_of_mem_children` — the parent of a child is where one came
  from.
* `Cursor.size_lt_of_child?` — moving down makes the tree smaller.
-/

namespace ChunkGraph.Syntax

/-- One level of the way back to the root. -/
structure Frame where
  /-- The parent. -/
  parent : Node
  /-- The siblings before the node, the nearest first. -/
  before : List Node
  deriving Repr, Inhabited

/-- A node and the way back to the root. -/
structure Cursor where
  /-- The node. -/
  node : Node
  /-- The way back, the parent's level first. -/
  above : List Frame
  deriving Repr, Inhabited

/-- The places of `nodes`, children of `parent` that come after `before`. -/
def placed (parent : Node) (above : List Frame) : List Node → List Node → List Cursor
  | _, [] => []
  | before, node :: rest =>
      ⟨node, ⟨parent, before⟩ :: above⟩ :: placed parent above (node :: before) rest

namespace Cursor

/-- The root of a tree. -/
def ofRoot (node : Node) : Cursor := ⟨node, []⟩

/-- The node's kind. -/
def kind (c : Cursor) : String := c.node.kind

/-- All children in order. -/
def children (c : Cursor) : List Cursor := placed c.node c.above [] c.node.children

/-- The named children in order. -/
def namedChildren (c : Cursor) : List Cursor := c.children.filter (·.node.named)

/-- The first child that fills a field. -/
def child? (c : Cursor) (field : String) : Option Cursor :=
  c.children.find? (·.node.field == field)

/-- All children that fill a field. -/
def childrenIn (c : Cursor) (field : String) : List Cursor :=
  c.children.filter (·.node.field == field)

/-- The parent. -/
def parent? (c : Cursor) : Option Cursor :=
  match c.above with
  | [] => none
  | frame :: above => some ⟨frame.parent, above⟩

/-- The named siblings before the node, the nearest first. -/
def previousNamed (c : Cursor) : List Node :=
  match c.above with
  | [] => []
  | frame :: _ => frame.before.filter (·.named)

/-- The descendant reached by taking the child at each index in turn. -/
def descend? (c : Cursor) : List Nat → Option Cursor
  | [] => some c
  | i :: path => c.children[i]?.bind (·.descend? path)

/-- The first child of a kind. -/
def childOfKind? (c : Cursor) (kind : String) : Option Cursor :=
  c.children.find? (·.kind == kind)

/-- The first named child of a kind. -/
def namedChildOfKind? (c : Cursor) (kind : String) : Option Cursor :=
  c.namedChildren.find? (·.kind == kind)

/-- The named children of a kind. -/
def namedChildrenOfKind (c : Cursor) (kind : String) : List Cursor :=
  c.namedChildren.filter (·.kind == kind)

@[simp] theorem parent?_ofRoot (node : Node) : (ofRoot node).parent? = none := rfl

end Cursor

theorem map_node_placed (parent : Node) (above : List Frame) (before nodes : List Node) :
    (placed parent above before nodes).map (·.node) = nodes := by
  induction nodes generalizing before with
  | nil => rfl
  | cons node rest ih => simp [placed, ih]

theorem parent?_of_mem_placed {parent : Node} {above : List Frame} {before nodes : List Node}
    {c : Cursor} (h : c ∈ placed parent above before nodes) : c.parent? = some ⟨parent, above⟩ := by
  induction nodes generalizing before with
  | nil => cases h
  | cons node rest ih =>
      cases h with
      | head => rfl
      | tail _ h => exact ih h

namespace Cursor

@[simp] theorem map_node_children (c : Cursor) : c.children.map (·.node) = c.node.children :=
  map_node_placed ..

/-- The parent of a child is where one came from. -/
theorem parent?_of_mem_children {c child : Cursor} (h : child ∈ c.children) :
    child.parent? = some c := parent?_of_mem_placed h

theorem size_lt_of_mem_children {c child : Cursor} (h : child ∈ c.children) :
    child.node.size < c.node.size := by
  apply Node.size_lt_of_mem_children
  rw [← map_node_children]
  exact List.mem_map_of_mem h

/-- Moving down to a field makes the tree smaller. -/
theorem size_lt_of_child? {c child : Cursor} {field : String} (h : c.child? field = some child) :
    child.node.size < c.node.size :=
  size_lt_of_mem_children (List.mem_of_find?_eq_some h)

theorem size_lt_of_mem_namedChildren {c child : Cursor} (h : child ∈ c.namedChildren) :
    child.node.size < c.node.size :=
  size_lt_of_mem_children (List.mem_filter.1 h).1

end Cursor

end ChunkGraph.Syntax
