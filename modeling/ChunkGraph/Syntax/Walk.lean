import ChunkGraph.Syntax.Cursor

/-!
# Walking a tree

`walk` visits a node and all its descendants with a list of places still to be
visited, and does not go below a place where `stop` holds; the node itself is
always entered. The walk is the pre-order of the tree; `preorder` says so by
plain recursion.

## Main definitions

* `walk` — the visited places in order, with a list of pending ones.
* `preorder` — the same by recursion on the tree.
-/

namespace ChunkGraph.Syntax

/-- The number of nodes below a list of places. -/
def pendingSize (pending : List Cursor) : Nat := Node.sizes (pending.map (·.node))

theorem pendingSize_cons (c : Cursor) (rest : List Cursor) :
    pendingSize (c :: rest) = c.node.size + pendingSize rest := by simp [pendingSize]

theorem pendingSize_children_append (c : Cursor) (rest : List Cursor) :
    pendingSize (c.children ++ rest) + 1 = c.node.size + pendingSize rest := by
  have sizes_append (xs ys : List Node) :
      Node.sizes (xs ++ ys) = Node.sizes xs + Node.sizes ys := by
    induction xs with
    | nil => simp
    | cons x xs ih => simp [ih, Nat.add_assoc]
  simp only [pendingSize, List.map_append, Cursor.map_node_children, sizes_append,
    Node.size_eq c.node]
  omega

/-- The places visited from a list of pending ones, the first of them next. -/
def walkPending (stop : Cursor → Bool) : List Cursor → List Cursor
  | [] => []
  | c :: rest =>
      if stop c then c :: walkPending stop rest
      else c :: walkPending stop (c.children ++ rest)
termination_by pending => pendingSize pending
decreasing_by
  · rw [pendingSize_cons]
    have := Node.size_pos c.node
    omega
  · rw [pendingSize_cons]
    have := pendingSize_children_append c rest
    omega

/-- The places visited from a node on, not going below places other than the node itself where
`stop` holds. -/
def walk (stop : Cursor → Bool) (c : Cursor) : List Cursor := c :: walkPending stop c.children

/-- Every place of a tree in the order of a walk without stops. -/
def walkAll (c : Cursor) : List Cursor := walk (fun _ => false) c

mutual

/-- The node, then the places below it from left to right, nothing below where `stop` holds. -/
def preorder (stop : Cursor → Bool) (above : List Frame) : Node → List Cursor
  | .mk kind named field start stop' children =>
      let node := Node.mk kind named field start stop' children
      if stop ⟨node, above⟩ then [⟨node, above⟩]
      else ⟨node, above⟩ :: preorderList stop node above [] children

/-- The places of children of `parent` that come after `before`. -/
def preorderList (stop : Cursor → Bool) (parent : Node) (above : List Frame) :
    List Node → List Node → List Cursor
  | _, [] => []
  | before, node :: rest =>
      preorder stop (⟨parent, before⟩ :: above) node ++
        preorderList stop parent above (node :: before) rest

end

end ChunkGraph.Syntax
