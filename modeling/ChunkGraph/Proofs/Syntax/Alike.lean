import ChunkGraph.Proofs.Data.Related
import ChunkGraph.Syntax.Tree

/-!
# Places that cannot be told apart

Two nodes of two parsed sources are alike when they have the same kinds, fields
and texts throughout, wherever they stand. Two places are alike when their nodes
are, and when the kinds of the nodes above them are the same all the way up.
What stands beside them may differ. The theorems below carry this through every
step that leads from one place to another.

## Main definitions

* `Node.Alike`, `Cursor.Alike` — nodes and places that are alike.
* `Cursor.kindsUp` — the kinds from a place up to the root.

## Main results

* `Cursor.Alike.textOf_eq` — they have the same text.
* `Cursor.Alike.children`, `Cursor.Alike.child?` — downwards.
* `rel_parent?` — upwards, as far as kinds are concerned.
-/

namespace ChunkGraph

namespace Syntax

variable {tree tree' : Tree}

/-! ## Nodes -/

/-- The nodes have the same kinds, fields and texts throughout. -/
inductive Node.Alike (tree tree' : Tree) : Node → Node → Prop
  | mk {kind field : String} {named : Bool} {start stop start' stop' : Nat}
      {children children' : List Node}
      (htext : tree.textBetween start stop = tree'.textBetween start' stop')
      (hchildren : List.Forall₂ (Node.Alike tree tree') children children') :
      Node.Alike tree tree' (.mk kind named field start stop children)
        (.mk kind named field start' stop' children')

namespace Node.Alike

variable {node node' : Node}

theorem kind_eq (h : Node.Alike tree tree' node node') : node.kind = node'.kind := by
  cases h
  rfl

theorem named_eq (h : Node.Alike tree tree' node node') : node.named = node'.named := by
  cases h
  rfl

theorem field_eq (h : Node.Alike tree tree' node node') : node.field = node'.field := by
  cases h
  rfl

theorem text_eq (h : Node.Alike tree tree' node node') :
    tree.textBetween node.start node.stop = tree'.textBetween node'.start node'.stop := by
  cases h with
  | mk htext _ => exact htext

theorem children (h : Node.Alike tree tree' node node') :
    List.Forall₂ (Node.Alike tree tree') node.children node'.children := by
  cases h with
  | mk _ hchildren => exact hchildren

/-- Nodes that are alike have as many nodes below them. -/
theorem size_eq (h : Node.Alike tree tree' node node') : node.size = node'.size := by
  induction hsize : node.size using Nat.strongRecOn generalizing node node' with
  | _ n ih =>
      have hsizes : ∀ {xs ys : List Node}, List.Forall₂ (Node.Alike tree tree') xs ys →
          (∀ x ∈ xs, x.size < n) → Node.sizes xs = Node.sizes ys := by
        intro xs ys hxs
        induction hxs with
        | nil => exact fun _ => rfl
        | @cons x y xs ys hxy _ ihxs =>
            intro hsmall
            have hx := ih x.size (hsmall x List.mem_cons_self) hxy rfl
            have hxs := ihxs fun z hz => hsmall z (List.mem_cons_of_mem x hz)
            rw [Node.sizes_cons, Node.sizes_cons, hxs, ← hx]
      have hchildren := hsizes h.children fun child hchild =>
        hsize ▸ Node.size_lt_of_mem_children hchild
      rw [← hsize, Node.size_eq node, Node.size_eq node', hchildren]

end Node.Alike

/-! ## Places -/

namespace Cursor

/-- The kinds of the nodes from a place up to the root. -/
def kindsUp (c : Cursor) : List String := c.kind :: c.above.map (·.parent.kind)

/-- The kinds are the same all the way up. -/
def SameKindsUp (c c' : Cursor) : Prop := c.kindsUp = c'.kindsUp

/-- The nodes of the places are alike, and the kinds above them are the same. -/
structure Alike (tree tree' : Tree) (c c' : Cursor) : Prop where
  /-- The nodes are alike. -/
  node : Node.Alike tree tree' c.node c'.node
  /-- The kinds above them are the same. -/
  above : c.above.map (·.parent.kind) = c'.above.map (·.parent.kind)

theorem SameKindsUp.kind_eq {c c' : Cursor} (h : SameKindsUp c c') : c.kind = c'.kind :=
  (List.cons.inj h).1

/-- One level up. -/
theorem rel_parent? {c c' : Cursor} (h : SameKindsUp c c') :
    Option.Rel SameKindsUp c.parent? c'.parent? := by
  obtain ⟨node, above⟩ := c
  obtain ⟨node', above'⟩ := c'
  have habove : above.map (·.parent.kind) = above'.map (·.parent.kind) := (List.cons.inj h).2
  cases above with
  | nil =>
      cases above' with
      | nil => exact .none
      | cons frame' above' => exact absurd habove (by simp)
  | cons frame above =>
      cases above' with
      | nil => exact absurd habove (by simp)
      | cons frame' above' => exact .some habove

namespace Alike

variable {c c' : Cursor}

theorem kind_eq (h : Alike tree tree' c c') : c.kind = c'.kind := h.node.kind_eq

theorem named_eq (h : Alike tree tree' c c') : c.node.named = c'.node.named := h.node.named_eq

theorem field_eq (h : Alike tree tree' c c') : c.node.field = c'.node.field := h.node.field_eq

theorem textOf_eq (h : Alike tree tree' c c') : tree.textOf c = tree'.textOf c' :=
  congrArg String.ofList h.node.text_eq

theorem kindsUp (h : Alike tree tree' c c') : SameKindsUp c c' := by
  show c.kind :: _ = c'.kind :: _
  rw [h.kind_eq, h.above]

/-- Children that are alike under parents of the same kind are alike as places. -/
theorem placed {parent parent' : Node} {above above' : List Frame}
    (hkind : parent.kind = parent'.kind)
    (habove : above.map (·.parent.kind) = above'.map (·.parent.kind)) {nodes nodes' : List Node}
    (h : List.Forall₂ (Node.Alike tree tree') nodes nodes') (before before' : List Node) :
    List.Forall₂ (Alike tree tree') (Syntax.placed parent above before nodes)
      (Syntax.placed parent' above' before' nodes') := by
  induction h generalizing before before' with
  | nil => exact .nil
  | @cons node node' nodes nodes' hnode _ ih =>
      refine .cons ⟨hnode, ?_⟩ (ih (node :: before) (node' :: before'))
      rw [List.map_cons, List.map_cons, hkind, habove]

theorem children (h : Alike tree tree' c c') :
    List.Forall₂ (Alike tree tree') c.children c'.children :=
  placed h.kind_eq h.above h.node.children [] []

theorem namedChildren (h : Alike tree tree' c c') :
    List.Forall₂ (Alike tree tree') c.namedChildren c'.namedChildren :=
  rel_filter h.children fun _ _ hchild => hchild.named_eq

theorem child? (h : Alike tree tree' c c') (field : String) :
    Option.Rel (Alike tree tree') (c.child? field) (c'.child? field) :=
  rel_find? h.children fun _ _ hchild => by rw [hchild.field_eq]

theorem namedChildOfKind? (h : Alike tree tree' c c') (kind : String) :
    Option.Rel (Alike tree tree') (c.namedChildOfKind? kind) (c'.namedChildOfKind? kind) :=
  rel_find? h.namedChildren fun _ _ hchild => by rw [hchild.kind_eq]

theorem namedChildrenOfKind (h : Alike tree tree' c c') (kind : String) :
    List.Forall₂ (Alike tree tree') (c.namedChildrenOfKind kind) (c'.namedChildrenOfKind kind) :=
  rel_filter h.namedChildren fun _ _ hchild => by rw [hchild.kind_eq]

end Alike

end Cursor

end Syntax

end ChunkGraph
